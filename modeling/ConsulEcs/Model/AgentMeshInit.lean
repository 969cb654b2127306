import Mathlib.Data.String.Basic
import ConsulEcs.Model.MeshInit

/-! # The agent-registering `mesh-init`

`subcommand/mesh-init/command.go` is an earlier `mesh-init`. It registers the task's service and
its sidecar proxy with the local Consul agent, has `consul connect envoy -bootstrap` print the
proxy's Envoy configuration, and writes that and a copy of its own binary into the bootstrap
directory. The service's health checks are the configured ones or, for each container whose health
ECS reports, a TTL check that `consul-ecs` keeps in sync; configuring both is an error.

A run is the list of requests the command makes, in order, with the answer to each taken from an
environment. `backoff.RetryNotify` with a constant backoff retries a registration until the agent
accepts it, so a registration is one request and never an error; an agent that never accepts keeps
the command retrying, which is not modelled. `path.Join` stays symbolic: a file request names the
directory and the file.
-/

namespace ConsulEcs.AgentMeshInit

open MeshInit (StringMap ECSTaskMeta mergeMeta taskMetaEntries)

/-- `api.AgentServiceCheck`, with the fields this `mesh-init` sets; an unset field is `""`. -/
structure AgentServiceCheck where
  checkID : String := ""
  name : String := ""
  notes : String := ""
  ttl : String := ""
  tcp : String := ""
  interval : String := ""
  deregisterCriticalServiceAfter : String := ""
  aliasService : String := ""
deriving DecidableEq, Repr

/-- `api.Upstream`, with the fields of the sidecar's upstreams it passes on. -/
structure Upstream where
  destinationName : String
  localBindPort : Int
deriving DecidableEq, Repr

/-- `api.AgentServiceConnectProxyConfig`, with the fields this `mesh-init` sets. -/
structure ProxyConfig where
  destinationServiceName : String
  destinationServiceID : String
  localServicePort : Int
  upstreams : List Upstream
deriving DecidableEq, Repr

/-- `api.AgentServiceRegistration`, with the fields this `mesh-init` sets. -/
structure AgentServiceRegistration where
  kind : String := ""
  id : String
  name : String
  port : Int
  tags : List String
  meta : StringMap
  proxy : Option ProxyConfig := none
  checks : List AgentServiceCheck

/-- `config.Config`, with what this `mesh-init` reads: `Mesh.BootstrapDir`, `Mesh.Service`,
`Mesh.HealthSyncContainers` and the sidecar proxy's upstreams. -/
structure Config where
  bootstrapDir : String
  serviceName : String
  port : Int
  tags : List String
  meta : StringMap
  checks : List AgentServiceCheck
  healthSyncContainers : List String
  upstreams : List Upstream

/-- A request to the outside: a registration with the local agent, a run of
`consul connect envoy -bootstrap` for a proxy, or `ioutil.WriteFile(path.Join(dir, name), ...)`. -/
inductive Effect where
  | register (registration : AgentServiceRegistration)
  | envoyBootstrap (proxyID : String)
  | writeFile (dir name content : String) (perm : Nat)

/-- The answers the command gets: the configuration `config.FromEnv` reads, the error of
`api.NewClient`, the task metadata, the error and the combined output of the `consul` run for a
proxy, the error of writing a file, the path of its own executable and the contents of a file it
reads. -/
structure Env where
  config : Except String Config
  newClient : Option String
  taskMeta : Except String ECSTaskMeta
  envoyBootstrap : String → Option String × String
  writeFile : String → String → Option String
  executable : Except String String
  readFile : String → Except String String

/-- `envoyBoostrapConfigFilename`. -/
def envoyBoostrapConfigFilename : String := "envoy-bootstrap.json"

/-- The TTL check `consul-ecs` keeps in sync with a container's ECS health check. The notes name
the container as the literal text `${containerName}`. -/
def syncedCheck (serviceID containerName : String) : AgentServiceCheck where
  checkID := serviceID ++ "-" ++ containerName ++ "-consul-ecs"
  name := "consul ecs synced"
  notes := "consul-ecs created and updates this check because the $\x7bcontainerName\x7d container is essential and has an ECS health check."
  ttl := "100000h"

def constructChecks (serviceID : String) (checks : List AgentServiceCheck) (healthSyncContainers : List String) :
    Except String (List AgentServiceCheck) :=
  if checks.length > 0 ∧ healthSyncContainers.length > 0 then
    .error "only one of mesh.checks or mesh.healthSyncContainers should be set"
  else if healthSyncContainers.length > 0 then
    .ok (healthSyncContainers.foldl (fun checks containerName => checks ++ [syncedCheck serviceID containerName]) checks)
  else .ok checks

def Command.constructServiceName (c : Config) (family : String) : String :=
  if c.serviceName = "" then family else c.serviceName

/-- The service registration `realRun` sends. -/
def serviceRegistration (c : Config) (serviceName serviceID : String) (fullMeta : StringMap)
    (checks : List AgentServiceCheck) : AgentServiceRegistration where
  id := serviceID
  name := serviceName
  port := c.port
  tags := c.tags
  meta := fullMeta
  checks := checks

/-- The proxy's check of its public listener. -/
def publicListenerCheck : AgentServiceCheck where
  name := "Proxy Public Listener"
  tcp := "127.0.0.1:20000"
  interval := "10s"
  deregisterCriticalServiceAfter := "10m"

/-- The proxy's check that aliases the service it fronts. -/
def destinationAliasCheck (serviceID : String) : AgentServiceCheck where
  name := "Destination Alias"
  aliasService := serviceID

/-- The sidecar proxy registration `realRun` sends, with its two checks: the public listener and
an alias of the service. -/
def proxyRegistration (c : Config) (serviceName serviceID : String) (fullMeta : StringMap) :
    AgentServiceRegistration where
  id := serviceID ++ "-sidecar-proxy"
  name := serviceName ++ "-sidecar-proxy"
  port := 20000
  kind := MeshInit.serviceKindConnectProxy
  proxy := some ⟨serviceName, serviceID, c.port, c.upstreams⟩
  checks := [publicListenerCheck, destinationAliasCheck serviceID]
  meta := fullMeta
  tags := c.tags

/-- The end of `realRun` after the registrations and the `consul` run: write the bootstrap file,
then copy the binary, each step stopping at its error. -/
def writeBootstrap (c : Config) (env : Env) (out : String) : Except String Unit × List Effect :=
  let bootstrap := Effect.writeFile c.bootstrapDir envoyBoostrapConfigFilename out 0o444
  match env.writeFile c.bootstrapDir envoyBoostrapConfigFilename with
  | some err => (.error err, [bootstrap])
  | none =>
    match env.executable with
    | .error err => (.error err, [bootstrap])
    | .ok ex =>
      match env.readFile ex with
      | .error err => (.error err, [bootstrap])
      | .ok data =>
        let copy := Effect.writeFile c.bootstrapDir "consul-ecs" data 0o755
        match env.writeFile c.bootstrapDir "consul-ecs" with
        | some err => (.error err, [bootstrap, copy])
        | none => (.ok (), [bootstrap, copy])

/-- `(*Command).realRun`: its result and the requests it made. -/
def Command.realRun (c : Config) (env : Env) : Except String Unit × List Effect :=
  match env.newClient with
  | some err => (.error ("constructing consul client: " ++ err), [])
  | none =>
    match env.taskMeta with
    | .error err => (.error err, [])
    | .ok taskMeta =>
      let serviceName := Command.constructServiceName c taskMeta.family
      let taskID := taskMeta.taskID
      let serviceID := serviceName ++ "-" ++ taskID
      match constructChecks serviceID c.checks c.healthSyncContainers with
      | .error err => (.error err, [])
      | .ok checks =>
        let fullMeta := mergeMeta (taskMetaEntries taskID taskMeta.taskARN) c.meta
        let proxyID := serviceID ++ "-sidecar-proxy"
        let registered := [.register (serviceRegistration c serviceName serviceID fullMeta checks),
          .register (proxyRegistration c serviceName serviceID fullMeta), .envoyBootstrap proxyID]
        match env.envoyBootstrap proxyID with
        | (some err, out) => (.error (err ++ ": " ++ out), registered)
        | (none, out) =>
          let written := writeBootstrap c env out
          (written.1, registered ++ written.2)

/-- How `Run` ends: the exit code, the error shown on the UI, the error logged, and the requests. -/
structure Exit where
  code : Nat
  uiError : Option String
  logged : Option String
  effects : List Effect

/-- `(*Command).Run`. -/
def Command.run (env : Env) : Exit :=
  match env.config with
  | .error err => ⟨1, some ("invalid config: " ++ err), none, []⟩
  | .ok c =>
    if c.bootstrapDir = "" then ⟨1, some "config value mesh.bootstrapDir must be set", none, []⟩
    else
      match Command.realRun c env with
      | (.error err, effects) => ⟨1, none, some err, effects⟩
      | (.ok (), effects) => ⟨0, none, none, effects⟩

end ConsulEcs.AgentMeshInit
