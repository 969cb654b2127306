import Mathlib
import ConsulEcs.Model.MeshInitRun
import ConsulEcs.Proofs.MeshInit

/-! # What a run of `mesh-init` asks for

The steps of a run are strictly sequential and the first error ends it. Before the watcher runs
the command asks for nothing; once it runs, it registers the service and its proxy (or the gateway
alone), exactly the registrations `Command.realRun` of the registration model builds, each retried
after every rejection until Consul accepts it once, then copies its binary, writes the inline CA
certificate when TLS is on, and writes the dataplane configuration. `Run` exits 0 only once the
dataplane configuration is written.
-/

namespace ConsulEcs.MeshInitRun

open MeshInit (CatalogRegistration Constants ECSTaskMeta)

/-! ## The registrations -/

/-- The registration an effect shows Consul accepting, if any. -/
def Effect.accepted : Effect → Option CatalogRegistration
  | .register registration none => some registration
  | _ => none

/-- The error and the wait an effect logs before a retry, if any. -/
def Effect.retry : Effect → Option (String × String)
  | .retryLogged err duration => some (err, duration)
  | _ => none

/-- `RetryNotify` ends with the one attempt Consul accepts. -/
theorem retryNotify_accepted (registration : CatalogRegistration) :
    ∀ errors, (retryNotify registration errors).filterMap Effect.accepted = [registration]
  | [] => rfl
  | _ :: rest => by simp [retryNotify, Effect.accepted, retryNotify_accepted registration rest]

/-- `RetryNotify` logs each rejection once, in order, with the wait of one second. -/
theorem retryNotify_retries (registration : CatalogRegistration) :
    ∀ errors, (retryNotify registration errors).filterMap Effect.retry = errors.map fun err => (err, retryInterval)
  | [] => rfl
  | _ :: rest => by simp [retryNotify, Effect.retry, retryNotify_retries registration rest]

theorem registerAll_accepted (env : Env) (registrations : List CatalogRegistration) :
    (registerAll env registrations).filterMap Effect.accepted = registrations := by
  induction registrations <;> simp_all [registerAll, retryNotify_accepted]

theorem registerAll_retries (env : Env) (registrations : List CatalogRegistration) :
    (registerAll env registrations).filterMap Effect.retry =
      registrations.flatMap fun registration => (env.registerErrors registration).map fun err => (err, retryInterval) := by
  induction registrations <;> simp_all [registerAll, retryNotify_retries]

/-! ## The artifacts -/

/-- The CA certificate `writeRPCCACertToSharedVolume` writes: the inline one, when TLS is on. -/
def caCertWrites (c : Config) (env : Env) : List Effect :=
  if c.grpcTLSSettings.enabled = true ∧ env.caCertPem ≠ "" then
    [.writeFile c.bootstrapDir caCertFileName env.caCertPem 0o444]
  else []

/-- The files a run writes after registering, in order: the binary, the inline CA certificate
when TLS is on, and the dataplane configuration. -/
def artifacts (c : Config) (env : Env) (data configJSON : String) : List Effect :=
  .writeFile c.bootstrapDir "consul-ecs" data 0o755 :: caCertWrites c env ++
    [.writeFile c.bootstrapDir dataplaneConfigFileName configJSON 0o444]

theorem copyECSBinaryToSharedVolume_requests (c : Config) (env : Env) :
    ((Command.copyECSBinaryToSharedVolume c env).2 = [] ∧ (Command.copyECSBinaryToSharedVolume c env).1.isSome) ∨
      ∃ data, (Command.copyECSBinaryToSharedVolume c env).2 = [.writeFile c.bootstrapDir "consul-ecs" data 0o755] ∧
        (Command.copyECSBinaryToSharedVolume c env).1 = env.writeFile c.bootstrapDir "consul-ecs" := by
  unfold Command.copyECSBinaryToSharedVolume
  split
  · exact .inl ⟨rfl, rfl⟩
  · split
    · exact .inl ⟨rfl, rfl⟩
    · exact .inr ⟨_, rfl, rfl⟩

/-- `writeRPCCACertToSharedVolume` asks to write the inline certificate exactly when TLS is on,
and then names the file it wrote. -/
theorem writeRPCCACertToSharedVolume_requests (c : Config) (env : Env) :
    (Command.writeRPCCACertToSharedVolume c env).2 = caCertWrites c env ∧
      ∀ file, (Command.writeRPCCACertToSharedVolume c env).1 = .ok file →
        file = if c.grpcTLSSettings.enabled = true then
          (if env.caCertPem = "" then c.grpcTLSSettings.caCertFile else env.pathJoin c.bootstrapDir caCertFileName)
        else "" := by
  unfold Command.writeRPCCACertToSharedVolume caCertWrites
  by_cases enabled : c.grpcTLSSettings.enabled = true
  · by_cases inline : env.caCertPem = ""
    · simp [enabled, inline]
    · simp only [enabled, inline, Bool.not_true, Bool.false_eq_true, if_false, if_true, ne_eq, not_false_eq_true,
        and_self]
      split <;> simp
  · simp [enabled]

theorem generateAndWriteDataplaneConfig_requests (c : Config) (env : Env) (proxyRegistration : CatalogRegistration)
    (consulLoginCreds : Option String) (caCertFilePath : String) :
    let run := Command.generateAndWriteDataplaneConfig c env proxyRegistration consulLoginCreds caCertFilePath
    (run.2 = [] ∧ run.1.isSome) ∨
      ∃ configJSON, env.getDataplaneConfigJSON proxyRegistration consulLoginCreds caCertFilePath = .ok configJSON ∧
        run.2 = [.writeFile c.bootstrapDir dataplaneConfigFileName configJSON 0o444] ∧
        run.1 = env.writeFile c.bootstrapDir dataplaneConfigFileName := by
  unfold Command.generateAndWriteDataplaneConfig
  split
  · exact .inl ⟨rfl, rfl⟩
  · exact .inr ⟨_, by assumption, rfl, rfl⟩

/-! ## Once the watcher runs -/

/-- Once the watcher runs, the command asks for nothing and fails, or registers everything the
registration model builds before any file, then asks for the artifacts in order, stopping at the
first error. It succeeds exactly when it asked for all of them and the dataplane configuration was
written, and then that configuration is the one built for the proxy registration, with the login
credentials when login is on and the CA certificate file `writeRPCCACertToSharedVolume` named. -/
theorem watched_requests (k : Constants) (c : Config) (env : Env) (taskMeta : ECSTaskMeta)
    (clusterARN credentials : String) :
    let run := Command.watched k c env taskMeta clusterARN credentials
    let registered := registerAll env (MeshInit.Command.realRun k c.toConfig env.region taskMeta clusterARN)
    (run.2 = [] ∧ ∃ err, run.1 = .error err) ∨
      ∃ data configJSON, registered <+: run.2 ∧ run.2 <+: registered ++ artifacts c env data configJSON ∧
        (run.1 = .ok () ↔ run.2 = registered ++ artifacts c env data configJSON ∧
          env.writeFile c.bootstrapDir dataplaneConfigFileName = none) ∧
        (run.1 = .ok () → env.getDataplaneConfigJSON
          (MeshInit.Command.registrations k c.toConfig env.region taskMeta clusterARN).2
          (if c.consulLoginEnabled = true then some credentials else none)
          (if c.grpcTLSSettings.enabled = true then
            (if env.caCertPem = "" then c.grpcTLSSettings.caCertFile else env.pathJoin c.bootstrapDir caCertFileName)
          else "") = .ok configJSON) := by
  unfold Command.watched MeshInit.Command.realRun
  split
  · exact .inl ⟨rfl, _, rfl⟩
  split
  · exact .inl ⟨rfl, _, rfl⟩
  generalize MeshInit.Command.registrations k c.toConfig env.region taskMeta clusterARN = registrations
  obtain ⟨service, proxy⟩ := registrations
  have copySpec := copyECSBinaryToSharedVolume_requests c env
  generalize Command.copyECSBinaryToSharedVolume c env = copy at copySpec ⊢
  obtain ⟨copyErr, copied⟩ := copy
  obtain ⟨caWrites, named⟩ := writeRPCCACertToSharedVolume_requests c env
  generalize Command.writeRPCCACertToSharedVolume c env = caCert at caWrites named ⊢
  obtain ⟨caFile, written⟩ := caCert
  dsimp only at copySpec caWrites named ⊢
  subst caWrites
  refine .inr ?_
  rcases copySpec with ⟨rfl, failed⟩ | ⟨data, rfl, result⟩
  · obtain ⟨err, rfl⟩ := Option.isSome_iff_exists.mp failed
    dsimp only
    exact ⟨"", "", by simp, by simp [artifacts], by simp [artifacts], (nomatch ·)⟩
  refine ⟨data, ?_⟩
  subst result
  rcases env.writeFile c.bootstrapDir "consul-ecs" with _ | err
  swap
  · dsimp only
    exact ⟨"", by simp, by simp [artifacts], by simp [artifacts], (nomatch ·)⟩
  dsimp only
  have upToCA : ∀ configJSON, registerAll env (service.toList ++ [proxy]) ++
      [.writeFile c.bootstrapDir "consul-ecs" data 0o755] ++ caCertWrites c env <+:
        registerAll env (service.toList ++ [proxy]) ++ artifacts c env data configJSON :=
    fun configJSON => ⟨[.writeFile c.bootstrapDir dataplaneConfigFileName configJSON 0o444], by simp [artifacts]⟩
  rcases caFile with err | rpcCACertFile
  · exact ⟨"", by simp, upToCA "", by simp [artifacts], (nomatch ·)⟩
  dsimp only
  rcases generateAndWriteDataplaneConfig_requests c env proxy
      (if c.consulLoginEnabled = true then some credentials else none) rpcCACertFile with
    ⟨generated, failed⟩ | ⟨configJSON, built, generated, result⟩
  · obtain ⟨err, failed⟩ := Option.isSome_iff_exists.mp failed
    rw [generated, failed]
    exact ⟨"", by simp, by simpa using upToCA "", by simp [artifacts], (nomatch ·)⟩
  · rw [generated, result, ← named rpcCACertFile rfl]
    refine ⟨configJSON, by simp, ⟨[], by simp [artifacts]⟩, ?_, fun _ => built⟩
    rcases env.writeFile c.bootstrapDir dataplaneConfigFileName with _ | err <;> simp [artifacts]

/-! ## `realRun` -/

/-- Before the watcher runs, `realRun` asks for nothing; once it runs, it asks for what the rest
of the run asks and then stops the watcher. -/
theorem realRunBody_cases (k : Constants) (c : Config) (env : Env) :
    ((Command.realRunBody k c env).2 = [] ∧ ∃ err, (Command.realRunBody k c env).1 = .error err) ∨
      ∃ taskMeta clusterARN credentials, env.taskMeta = .ok taskMeta ∧ env.clusterARN = .ok clusterARN ∧
        env.serverConnMgrConfig = .ok credentials ∧
        Command.realRunBody k c env = ((Command.watched k c env taskMeta clusterARN credentials).1,
          .watcherRun :: (Command.watched k c env taskMeta clusterARN credentials).2 ++ [.watcherStop]) := by
  unfold Command.realRunBody
  split
  · exact .inl ⟨rfl, _, rfl⟩
  split
  · exact .inl ⟨rfl, _, rfl⟩
  split
  · exact .inl ⟨rfl, _, rfl⟩
  split
  · exact .inl ⟨rfl, _, rfl⟩
  · exact .inr ⟨_, _, _, by assumption, by assumption, by assumption, rfl⟩

/-- Every artifact is a file in the bootstrap directory. -/
theorem artifacts_in_bootstrapDir (c : Config) (env : Env) (data configJSON : String) :
    ∀ effect ∈ artifacts c env data configJSON, ∃ name content perm, effect = .writeFile c.bootstrapDir name content perm := by
  have ca : ∀ effect ∈ caCertWrites c env, ∃ name content perm, effect = .writeFile c.bootstrapDir name content perm := by
    unfold caCertWrites
    split_ifs <;> simp
  simp only [artifacts, List.forall_mem_cons, List.forall_mem_append, List.forall_mem_singleton]
  exact ⟨⟨⟨_, _, _, rfl⟩, ca⟩, ⟨_, _, _, rfl⟩, fun _ member => absurd member (List.not_mem_nil _)⟩

theorem realRun_eq (k : Constants) (c : Config) (env : Env) :
    Command.realRun k c env = ((Command.realRunBody k c env).1, (Command.realRunBody k c env).2 ++ [.cancel]) := by
  unfold Command.realRun
  cases Command.realRunBody k c env
  rfl

/-- A run asks for nothing before its watcher runs. Otherwise, stopping at the first error, it
registers exactly what the registration model builds, in order, before it writes any file, then
copies its binary, writes the inline CA certificate when TLS is on, and writes the dataplane
configuration. It succeeds exactly when it asked for all of them and the last write went
through. -/
theorem realRun_steps (k : Constants) (c : Config) (env : Env) :
    ((Command.realRun k c env).2 = [.cancel] ∧ ∃ err, (Command.realRun k c env).1 = .error err) ∨
      ∃ taskMeta clusterARN middle, env.taskMeta = .ok taskMeta ∧ env.clusterARN = .ok clusterARN ∧
        (Command.realRun k c env).2 = .watcherRun :: middle ++ [.watcherStop, .cancel] ∧
        ((middle = [] ∧ ∃ err, (Command.realRun k c env).1 = .error err) ∨
          ∃ data configJSON,
            registerAll env (MeshInit.Command.realRun k c.toConfig env.region taskMeta clusterARN) <+: middle ∧
            middle <+: registerAll env (MeshInit.Command.realRun k c.toConfig env.region taskMeta clusterARN) ++
              artifacts c env data configJSON ∧
            ((Command.realRun k c env).1 = .ok () ↔
              middle = registerAll env (MeshInit.Command.realRun k c.toConfig env.region taskMeta clusterARN) ++
                artifacts c env data configJSON ∧ env.writeFile c.bootstrapDir dataplaneConfigFileName = none)) := by
  rw [realRun_eq]
  rcases realRunBody_cases k c env with ⟨none, failed⟩ | ⟨taskMeta, clusterARN, credentials, meta, arn, -, body⟩
  · exact .inl ⟨by rw [none]; rfl, failed⟩
  rw [body]
  refine .inr ⟨taskMeta, clusterARN, (Command.watched k c env taskMeta clusterARN credentials).2, meta, arn,
    by simp, ?_⟩
  rcases watched_requests k c env taskMeta clusterARN credentials with
    ⟨none, failed⟩ | ⟨data, configJSON, first, asked, result, -⟩
  · exact .inl ⟨none, failed⟩
  · exact .inr ⟨data, configJSON, first, asked, result⟩

/-- A run either registers nothing and fails, or Consul accepts each registration of the
registration model once, in order, and every rejection before it is logged once with the wait of
one second: a registration rejected twice gives one accepted attempt and two retries logged with
`1s`. -/
theorem realRun_retries (k : Constants) (c : Config) (env : Env) :
    ((Command.realRun k c env).2.filterMap Effect.accepted = [] ∧
      (Command.realRun k c env).2.filterMap Effect.retry = [] ∧ ∃ err, (Command.realRun k c env).1 = .error err) ∨
    ∃ taskMeta clusterARN, env.taskMeta = .ok taskMeta ∧ env.clusterARN = .ok clusterARN ∧
      (Command.realRun k c env).2.filterMap Effect.accepted =
        MeshInit.Command.realRun k c.toConfig env.region taskMeta clusterARN ∧
      (Command.realRun k c env).2.filterMap Effect.retry =
        (MeshInit.Command.realRun k c.toConfig env.region taskMeta clusterARN).flatMap fun registration =>
          (env.registerErrors registration).map fun err => (err, retryInterval) := by
  rcases realRun_steps k c env with ⟨effects, failed⟩ |
    ⟨taskMeta, clusterARN, middle, meta, arn, effects, ⟨rfl, failed⟩ | ⟨data, configJSON, first, asked, -⟩⟩
  · exact .inl ⟨by rw [effects]; rfl, by rw [effects]; rfl, failed⟩
  · exact .inl ⟨by rw [effects]; rfl, by rw [effects]; rfl, failed⟩
  -- after the registrations the run only writes files
  obtain ⟨rest, rfl⟩ := first
  have writes : ∀ effect ∈ rest, ∃ name content perm, effect = .writeFile c.bootstrapDir name content perm :=
    fun effect member => artifacts_in_bootstrapDir c env data configJSON effect
      (((List.prefix_append_right_inj _).mp asked).subset member)
  have quiet : rest.filterMap Effect.accepted = [] ∧ rest.filterMap Effect.retry = [] := by
    constructor <;> exact List.filterMap_eq_nil_iff.mpr fun effect member => by
      obtain ⟨_, _, _, rfl⟩ := writes effect member
      rfl
  refine .inr ⟨taskMeta, clusterARN, meta, arn, ?_, ?_⟩ <;>
    simp [effects, registerAll_accepted, registerAll_retries, quiet, Effect.accepted, Effect.retry]

/-- After a successful run, the dataplane configuration it wrote is the one built for the proxy
registration it sent, with the login credentials exactly when login is on. Its CA certificate file
is none when TLS is off, the configured one when the certificate is not inline, and otherwise the
file the run wrote itself. -/
theorem realRun_dataplaneConfig (k : Constants) (c : Config) (env : Env)
    (succeeded : (Command.realRun k c env).1 = .ok ()) :
    ∃ taskMeta clusterARN credentials configJSON,
      env.taskMeta = .ok taskMeta ∧ env.clusterARN = .ok clusterARN ∧ env.serverConnMgrConfig = .ok credentials ∧
      Effect.writeFile c.bootstrapDir dataplaneConfigFileName configJSON 0o444 ∈ (Command.realRun k c env).2 ∧
      env.getDataplaneConfigJSON (MeshInit.Command.registrations k c.toConfig env.region taskMeta clusterARN).2
        (if c.consulLoginEnabled = true then some credentials else none)
        (if c.grpcTLSSettings.enabled = true then
          (if env.caCertPem = "" then c.grpcTLSSettings.caCertFile else env.pathJoin c.bootstrapDir caCertFileName)
        else "") = .ok configJSON ∧
      (c.grpcTLSSettings.enabled = true → env.caCertPem ≠ "" →
        Effect.writeFile c.bootstrapDir caCertFileName env.caCertPem 0o444 ∈ (Command.realRun k c env).2) := by
  rw [realRun_eq] at succeeded ⊢
  rcases realRunBody_cases k c env with ⟨-, err, failed⟩ | ⟨taskMeta, clusterARN, credentials, meta, arn, connMgr, body⟩
  · rw [failed] at succeeded
    cases succeeded
  rw [body] at succeeded ⊢
  rcases watched_requests k c env taskMeta clusterARN credentials with
    ⟨-, err, failed⟩ | ⟨data, configJSON, -, -, result, built⟩
  · rw [failed] at succeeded
    cases succeeded
  have asked := (result.mp succeeded).1
  refine ⟨taskMeta, clusterARN, credentials, configJSON, meta, arn, connMgr, ?_, built succeeded, fun enabled inline => ?_⟩
  · simp [asked, artifacts]
  · simp [asked, artifacts, caCertWrites, enabled, inline]

/-- A workload whose run goes through writes its dataplane configuration with no CA certificate
file when TLS is off. -/
theorem realRun_dataplaneConfig_web :
    let k : MeshInit.Constants := ⟨8443, "lan", "wan", by decide, MeshInit.RuneLowering.ascii⟩
    let c : Config := ⟨⟨⟨"", 8080, [], fun _ => none, ⟨1, 1⟩, false, "", ""⟩, none, 20000⟩, "/consul", false,
      ⟨false, ""⟩⟩
    let taskMeta : ECSTaskMeta := ⟨"arn:aws:ecs:us-east-1:123456789012:task/cluster/abcdef", "web",
      "us-east-1a", "abcdef", "10.0.0.1"⟩
    let env : Env := ⟨.ok c, .ok taskMeta, .ok "cluster", .ok "", none, .ok (), none, fun _ => [], "us-east-1",
      .ok "/bin/consul-ecs", fun _ => .ok "binary", fun _ _ => none, "", fun _ _ _ => .ok "dataplane",
      fun dir name => dir ++ "/" ++ name⟩
    ∃ taskMeta clusterARN credentials configJSON,
      env.taskMeta = .ok taskMeta ∧ env.clusterARN = .ok clusterARN ∧ env.serverConnMgrConfig = .ok credentials ∧
      Effect.writeFile c.bootstrapDir dataplaneConfigFileName configJSON 0o444 ∈ (Command.realRun k c env).2 ∧
      env.getDataplaneConfigJSON (MeshInit.Command.registrations k c.toConfig env.region taskMeta clusterARN).2
        (if c.consulLoginEnabled = true then some credentials else none)
        (if c.grpcTLSSettings.enabled = true then
          (if env.caCertPem = "" then c.grpcTLSSettings.caCertFile else env.pathJoin c.bootstrapDir caCertFileName)
        else "") = .ok configJSON ∧
      (c.grpcTLSSettings.enabled = true → env.caCertPem ≠ "" →
        Effect.writeFile c.bootstrapDir caCertFileName env.caCertPem 0o444 ∈ (Command.realRun k c env).2) :=
  realRun_dataplaneConfig _ _ _ rfl

/-! ## `Run` -/

/-- `Run` asks for nothing when given an argument or when the configuration does not load. It
exits 0 only when the dataplane configuration was the last file it wrote, right before the watcher
stopped, and otherwise exits 1 with the error shown or logged. -/
theorem run_exitCode (k : Constants) (args : List String) (env : Env) :
    (∀ arg rest, args = arg :: rest → Command.run k args env = ⟨1, some ("unexpected argument: " ++ arg), none, []⟩) ∧
    ((Command.run k args env).effects ≠ [] → args = [] ∧ ∃ c, env.config = .ok c) ∧
    ((Command.run k args env).code = 0 → ∃ c configJSON before, env.config = .ok c ∧
      (Command.run k args env).effects =
        before ++ [.writeFile c.bootstrapDir dataplaneConfigFileName configJSON 0o444, .watcherStop, .cancel]) ∧
    ((Command.run k args env).code ≠ 0 → (Command.run k args env).code = 1 ∧
      ((Command.run k args env).uiError.isSome ∨ (Command.run k args env).logged.isSome)) := by
  rcases args with _ | ⟨arg, rest⟩
  swap
  · exact ⟨fun _ _ same => by cases same; rfl, by simp [Command.run], by simp [Command.run],
      by simp [Command.run]⟩
  refine ⟨fun _ _ same => (nomatch same), ?_⟩
  unfold Command.run
  dsimp only
  split
  · simp
  next c loaded =>
    have steps := realRun_steps k c env
    split
    next err effects ran =>
      rw [ran] at steps
      exact ⟨fun _ => ⟨rfl, c, loaded⟩, (nomatch ·), fun _ => ⟨rfl, by simp⟩⟩
    next effects ran =>
      rw [ran] at steps
      refine ⟨fun _ => ⟨rfl, c, loaded⟩, fun _ => ?_, fun nonzero => absurd rfl nonzero⟩
      rcases steps with ⟨-, err, failed⟩ |
        ⟨taskMeta, clusterARN, middle, -, -, shape, ⟨-, err, failed⟩ | ⟨data, configJSON, -, -, result⟩⟩
      · cases failed
      · cases failed
      · refine ⟨c, configJSON, .watcherRun :: (registerAll env (MeshInit.Command.realRun k c.toConfig env.region taskMeta
          clusterARN) ++ .writeFile c.bootstrapDir "consul-ecs" data 0o755 :: caCertWrites c env), loaded, ?_⟩
        dsimp only at shape result ⊢
        rw [shape, (result.mp rfl).1]
        simp [artifacts]

end ConsulEcs.MeshInitRun
