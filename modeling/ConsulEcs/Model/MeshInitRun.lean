import Mathlib.Data.String.Basic
import ConsulEcs.Model.MeshInit

/-! # The whole run of `mesh-init`

`Run` checks its arguments and loads the configuration; `realRun` reads the task metadata, starts
the server watcher and waits for its first state, builds the API client, registers the service
and its proxy (or the gateway alone), and writes the artifacts the sidecars need into the
bootstrap directory: a copy of its own binary, the gRPC CA certificate when TLS is on and the
certificate comes inline, and the dataplane configuration. Its first error ends the run; the
watcher it started is stopped and its context cancelled on every return, as the `defer`s do.

A run is the list of requests the command makes, in order, with the answer to each taken from an
environment. `backoff.RetryNotify` with a constant backoff of one second retries a registration
until Consul accepts it, logging each rejection with the wait: the environment holds the errors
Consul rejects the attempts of each registration with before it accepts one, so a registration is
never an error, and a server that never accepts, which keeps the command retrying, is not
modelled. The packages `awsutil`, `config`, `discovery` and `dataplane` are not part of this
source: what they answer is part of the environment, and `path.Join` is taken as given.
-/

namespace ConsulEcs.MeshInitRun

open MeshInit (CatalogRegistration Constants ECSTaskMeta)

/-- `GetGRPCTLSSettings()` of the server configuration, with the fields `mesh-init` reads. -/
structure TLSSettings where
  enabled : Bool
  caCertFile : String

/-- `config.Config`, with what the whole run reads beyond the registrations: `BootstrapDir`,
`ConsulLogin.Enabled` and the gRPC TLS settings. -/
structure Config extends MeshInit.Config where
  bootstrapDir : String
  consulLoginEnabled : Bool
  grpcTLSSettings : TLSSettings

/-- A request to the outside: the watcher's `Run` and `Stop`, a catalog registration with the error
Consul rejects it with, if any, the error `retryLogger` logs with the wait before the next attempt,
`os.WriteFile(path.Join(dir, name), content, perm)`, and the cancellation of the run's context. -/
inductive Effect where
  | watcherRun
  | register (registration : CatalogRegistration) (rejection : Option String)
  | retryLogged (err duration : String)
  | writeFile (dir name content : String) (perm : Nat)
  | watcherStop
  | cancel

/-- The answers the command gets: the configuration `config.FromEnv` reads, the task metadata
and its cluster ARN, the server connection manager's configuration (its login credentials), the
error of `discovery.NewWatcher`, the watcher's first state, the error of `api.NewClient`, the
errors Consul rejects the attempts of each registration with before it accepts one, the region, the path of its own executable and the contents of a file it reads, the error of writing
a file, the inline CA certificate, the dataplane configuration `GetDataplaneConfigJSON` builds for
a proxy, login credentials and CA certificate file, and `path.Join`. -/
structure Env where
  config : Except String Config
  taskMeta : Except String ECSTaskMeta
  clusterARN : Except String String
  serverConnMgrConfig : Except String String
  newWatcher : Option String
  state : Except String Unit
  newClient : Option String
  registerErrors : CatalogRegistration → List String
  region : String
  executable : Except String String
  readFile : String → Except String String
  writeFile : String → String → Option String
  caCertPem : String
  getDataplaneConfigJSON : CatalogRegistration → Option String → String → Except String String
  pathJoin : String → String → String

/-- `dataplaneConfigFileName`. -/
def dataplaneConfigFileName : String := "consul-dataplane.json"

/-- `caCertFileName`. -/
def caCertFileName : String := "consul-grpc-ca-cert.pem"

/-- `(1*time.Second).String()`, the wait of `backoff.NewConstantBackOff(1*time.Second)`. -/
def retryInterval : String := "1s"

/-- `backoff.RetryNotify` of a registration with `backoff.NewConstantBackOff(1*time.Second)` and
`retryLogger`, given the errors Consul rejects its attempts with: each rejected attempt is
followed by the log of its error with the wait, and the attempt Consul accepts ends the loop. -/
def retryNotify (registration : CatalogRegistration) : List String → List Effect
  | [] => [.register registration none]
  | err :: rest => .register registration (some err) :: .retryLogged err retryInterval :: retryNotify registration rest

/-- The registrations in turn, each through its own `backoff.RetryNotify`. -/
def registerAll (env : Env) (registrations : List CatalogRegistration) : List Effect :=
  registrations.flatMap fun registration => retryNotify registration (env.registerErrors registration)

/-- `copyECSBinaryToSharedVolume`: its error, if any, and its requests. -/
def Command.copyECSBinaryToSharedVolume (c : Config) (env : Env) : Option String × List Effect :=
  match env.executable with
  | .error err => (some err, [])
  | .ok ex =>
    match env.readFile ex with
    | .error err => (some err, [])
    | .ok data => (env.writeFile c.bootstrapDir "consul-ecs", [.writeFile c.bootstrapDir "consul-ecs" data 0o755])

/-- `writeRPCCACertToSharedVolume`: the CA certificate file for the dataplane, or an error, and its
requests. -/
def Command.writeRPCCACertToSharedVolume (c : Config) (env : Env) : Except String String × List Effect :=
  let tlsSettings := c.grpcTLSSettings
  if !tlsSettings.enabled then (.ok "", [])
  else
    let pem := env.caCertPem
    if pem = "" then (.ok tlsSettings.caCertFile, [])
    else
      let write := Effect.writeFile c.bootstrapDir caCertFileName pem 0o444
      match env.writeFile c.bootstrapDir caCertFileName with
      | some err => (.error err, [write])
      | none => (.ok (env.pathJoin c.bootstrapDir caCertFileName), [write])

/-- `generateAndWriteDataplaneConfig`: its error, if any, and its requests. -/
def Command.generateAndWriteDataplaneConfig (c : Config) (env : Env) (proxyRegistration : CatalogRegistration)
    (consulLoginCreds : Option String) (caCertFilePath : String) : Option String × List Effect :=
  match env.getDataplaneConfigJSON proxyRegistration consulLoginCreds caCertFilePath with
  | .error err => (some err, [])
  | .ok configJSON =>
    (env.writeFile c.bootstrapDir dataplaneConfigFileName,
      [.writeFile c.bootstrapDir dataplaneConfigFileName configJSON 0o444])

/-- `realRun` once the watcher runs, up to its return: fetch the watcher's state, build the client,
register, then write the artifacts, stopping at the first error. -/
def Command.watched (k : Constants) (c : Config) (env : Env) (taskMeta : ECSTaskMeta) (clusterARN credentials : String) :
    Except String Unit × List Effect :=
  match env.state with
  | .error err => (.error ("unable to fetch consul server watcher state: " ++ err), [])
  | .ok () =>
    match env.newClient with
    | some err => (.error ("constructing consul client from config: " ++ err), [])
    | none =>
      let (serviceRegistration, proxyRegistration) :=
        MeshInit.Command.registrations k c.toConfig env.region taskMeta clusterARN
      let registered := registerAll env (serviceRegistration.toList ++ [proxyRegistration])
      let (copyErr, copied) := Command.copyECSBinaryToSharedVolume c env
      match copyErr with
      | some err => (.error err, registered ++ copied)
      | none =>
        let (rpcCACertFile, written) := Command.writeRPCCACertToSharedVolume c env
        match rpcCACertFile with
        | .error err => (.error err, registered ++ copied ++ written)
        | .ok rpcCACertFile =>
          let loginCreds := if c.consulLoginEnabled then some credentials else none
          let (configErr, generated) :=
            Command.generateAndWriteDataplaneConfig c env proxyRegistration loginCreds rpcCACertFile
          (match configErr with
            | some err => .error err
            | none => .ok (), registered ++ copied ++ written ++ generated)

/-- `realRun` up to its `defer`s: read the task metadata, start the watcher, and run the rest,
stopping the watcher on the way out. -/
def Command.realRunBody (k : Constants) (c : Config) (env : Env) : Except String Unit × List Effect :=
  match env.taskMeta with
  | .error err => (.error err, [])
  | .ok taskMeta =>
    match env.clusterARN with
    | .error err => (.error err, [])
    | .ok clusterARN =>
      match env.serverConnMgrConfig with
      | .error err => (.error ("constructing server connection manager config: " ++ err), [])
      | .ok credentials =>
        match env.newWatcher with
        | some err => (.error ("unable to create consul server watcher: " ++ err), [])
        | none =>
          let (result, effects) := Command.watched k c env taskMeta clusterARN credentials
          (result, .watcherRun :: effects ++ [.watcherStop])

/-- `(*Command).realRun`: its result and the requests it made, the context cancelled last. -/
def Command.realRun (k : Constants) (c : Config) (env : Env) : Except String Unit × List Effect :=
  let (result, effects) := Command.realRunBody k c env
  (result, effects ++ [.cancel])

/-- How `Run` ends: the exit code, the error shown on the UI, the error logged, and the requests. -/
structure Exit where
  code : Nat
  uiError : Option String
  logged : Option String
  effects : List Effect

/-- `(*Command).Run`. -/
def Command.run (k : Constants) (args : List String) (env : Env) : Exit :=
  match args with
  | arg :: _ => ⟨1, some ("unexpected argument: " ++ arg), none, []⟩
  | [] =>
    match env.config with
    | .error err => ⟨1, some ("invalid config: " ++ err), none, []⟩
    | .ok c =>
      match Command.realRun k c env with
      | (.error err, effects) => ⟨1, none, some err, effects⟩
      | (.ok (), effects) => ⟨0, none, none, effects⟩

end ConsulEcs.MeshInitRun
