import Mathlib.Data.String.Basic

/-! # The catalog registrations of `mesh-init`

`mesh-init` registers the task with Consul's catalog under one synthetic node, the cluster's ARN: a
workload as a service and its sidecar proxy, a gateway as a single service whose addresses follow
the gateway's kind. The service is named after the configuration or, failing that, the task
family in lower case, and identified by the name and the task ID. Lowering a name is
`strings.ToLower`, over `unicode.ToLower`, whose case tables are a parameter.

The packages `awsutil` and `config` are not part of this source. The task metadata carries its task
ID and node IP as fields, the region that `awsutil.GetAWSRegion` reads is an input, and the
constants of `config` are a structure. The `ToConsulType` conversions of `config` are modelled from
the spec. The rest of the run, with server discovery, the API client and the files `realRun`
writes, is modelled in `MeshInitRun`; health checks are not modelled.
-/

namespace ConsulEcs.MeshInit

/-- `api.ServiceAddress`. -/
structure ServiceAddress where
  address : String
  port : Int
deriving DecidableEq, Repr

/-- `api.Locality`. -/
structure Locality where
  region : String
  zone : String
deriving DecidableEq, Repr

/-- `api.AgentWeights`. -/
structure AgentWeights where
  passing : Int
  warning : Int
deriving DecidableEq, Repr

/-- `api.AgentServiceConnectProxyConfig`, with the fields `mesh-init` sets. -/
structure ProxyConfig where
  destinationServiceName : String
  destinationServiceID : String
  localServicePort : Int
deriving DecidableEq, Repr

/-- A Go `map[string]string`: the value of each key, if any. -/
def StringMap : Type := String → Option String

/-- A Go `map[string]api.ServiceAddress`, entries in insertion order. -/
def AddressMap : Type := List (String × ServiceAddress)

/-- `taggedAddresses[key] = address`. -/
def AddressMap.insert (tagged : AddressMap) (key : String) (address : ServiceAddress) : AddressMap :=
  (key, address) :: tagged.filter (·.1 ≠ key)

/-- The entry of `key`, if any. -/
def AddressMap.get (tagged : AddressMap) (key : String) : Option ServiceAddress :=
  (tagged.find? (·.1 = key)).map (·.2)

/-- `api.AgentService`, with the fields `mesh-init` reads or writes. -/
structure AgentService where
  kind : String
  id : String
  service : String
  tags : List String
  meta : StringMap
  port : Int
  address : String
  taggedAddresses : Option AddressMap
  weights : AgentWeights
  enableTagOverride : Bool
  proxy : Option ProxyConfig
  «namespace» : String
  partition : String
  locality : Option Locality

/-- `api.CatalogRegistration`, without its node metadata and checks. -/
structure CatalogRegistration where
  node : String
  address : String
  service : AgentService
  partition : String
  skipNodeUpdate : Bool

/-- `api.ServiceKindConnectProxy`. -/
def serviceKindConnectProxy : String := "connect-proxy"

/-- `api.ServiceKindMeshGateway`. -/
def serviceKindMeshGateway : String := "mesh-gateway"

/-- `unicode.ToLower`, the lowering of one rune that `strings.ToLower` maps over a string. The
Unicode case tables are not part of this source, so the lowering is a parameter, with the laws the
tables keep: a lowered rune lowers to itself, an ASCII rune lowers as `Char.toLower` lowers it, and
only `.` lowers to `.`. -/
structure RuneLowering where
  toLower : Char → Char
  toLower_toLower : ∀ c, toLower (toLower c) = toLower c
  ascii_toLower : ∀ c, c.toNat < 128 → toLower c = c.toLower
  eq_dot : ∀ c, toLower c = '.' → c = '.'

/-- What `mesh-init` takes from outside this source: the constants of `config` it reads, the two
tagged-address names differing, and `unicode.ToLower`. -/
structure Constants where
  defaultGatewayPort : Int
  taggedAddressLAN : String
  taggedAddressWAN : String
  names_ne : taggedAddressLAN ≠ taggedAddressWAN
  lowering : RuneLowering

/-- `awsutil.ECSTaskMeta`, with its task ID and node IP as fields. -/
structure ECSTaskMeta where
  taskARN : String
  family : String
  availabilityZone : String
  taskID : String
  nodeIP : String

/-- `config.ServiceRegistration`, with the fields `mesh-init` reads. -/
structure ServiceRegistration where
  name : String
  port : Int
  tags : List String
  meta : StringMap
  weights : AgentWeights
  enableTagOverride : Bool
  «namespace» : String
  partition : String

/-- `config.GatewayAddress`. -/
structure GatewayAddress where
  address : String
  port : Int
deriving DecidableEq, Repr

/-- `config.GatewayRegistration`, with the fields `mesh-init` reads. -/
structure GatewayRegistration where
  kind : String
  name : String
  tags : List String
  meta : StringMap
  lanAddress : Option GatewayAddress
  wanAddress : Option GatewayAddress
  «namespace» : String
  partition : String

/-- `config.Config`, with what `mesh-init` reads of it; `publicListenerPort` is what
`Proxy.GetPublicListenerPort` returns. -/
structure Config where
  service : ServiceRegistration
  gateway : Option GatewayRegistration
  publicListenerPort : Int

/-! ## The conversions of `config` -/

/-- Modelled from the spec: a configured address is the address and port as given. -/
def GatewayAddress.toConsulType (a : GatewayAddress) : ServiceAddress := ⟨a.address, a.port⟩

/-- Modelled from the spec: the service as configured; the registration sets its ID, name,
address, metadata and locality. -/
def ServiceRegistration.toConsulType (s : ServiceRegistration) : AgentService where
  kind := ""
  id := ""
  service := ""
  tags := s.tags
  meta := s.meta
  port := s.port
  address := ""
  taggedAddresses := none
  weights := s.weights
  enableTagOverride := s.enableTagOverride
  proxy := none
  «namespace» := s.«namespace»
  partition := s.partition
  locality := none

/-- Modelled from the spec: the gateway's kind and tags as configured, with no port, no address,
no tagged addresses and no locality; the registration sets those that the gateway's kind needs. -/
def GatewayRegistration.toConsulType (g : GatewayRegistration) : AgentService where
  kind := g.kind
  id := ""
  service := ""
  tags := g.tags
  meta := g.meta
  port := 0
  address := ""
  taggedAddresses := none
  weights := ⟨0, 0⟩
  enableTagOverride := false
  proxy := none
  «namespace» := g.«namespace»
  partition := g.partition
  locality := none

/-- Modelled from the spec: the configuration is a gateway's when it has a gateway of nonempty
kind, the test `realRun` makes. -/
def Config.isGateway (c : Config) : Bool :=
  match c.gateway with
  | some gateway => gateway.kind != ""
  | none => false

/-! ## `mesh-init` -/

/-- `strings.ToLower`: every rune lowered by `unicode.ToLower`. -/
def toLower (lowering : RuneLowering) (s : String) : String := ⟨s.data.map lowering.toLower⟩

def Command.constructServiceName (k : Constants) (c : Config) (family : String) : String :=
  let configName := match c.gateway, c.isGateway with
    | some gateway, true => gateway.name
    | _, _ => c.service.name
  if configName = "" then toLower k.lowering family else configName

def makeServiceID (serviceName taskID : String) : String := serviceName ++ "-" ++ taskID

def makeProxySvcIDAndName (serviceID serviceName : String) : String × String :=
  (serviceID ++ "-sidecar-proxy", serviceName ++ "-sidecar-proxy")

/-- `mergeMeta(m1, m2)`: the entries of `m2` over those of `m1`. -/
def mergeMeta (m1 m2 : StringMap) : StringMap := fun key =>
  match m2 key with
  | some value => some value
  | none => m1 key

/-- The metadata every registration carries. -/
def taskMetaEntries (taskID taskARN : String) : StringMap := fun key =>
  if key = "task-id" then some taskID
  else if key = "task-arn" then some taskARN
  else if key = "source" then some "consul-ecs"
  else none

/-- `getLocalityParams`, for the region `awsutil.GetAWSRegion` reads. -/
def getLocalityParams (region : String) (taskMeta : ECSTaskMeta) : Option Locality :=
  if region = "" then none else some ⟨region, taskMeta.availabilityZone⟩

def Command.constructCatalogRegistrationPayload (service : AgentService) (taskMeta : ECSTaskMeta)
    (clusterARN : String) : CatalogRegistration where
  node := clusterARN
  address := taskMeta.nodeIP
  service := service
  partition := service.partition
  skipNodeUpdate := true

def Command.constructServiceRegistration (k : Constants) (c : Config) (region : String) (taskMeta : ECSTaskMeta)
    (clusterARN : String) : CatalogRegistration :=
  let serviceName := Command.constructServiceName k c taskMeta.family
  let taskID := taskMeta.taskID
  let serviceID := makeServiceID serviceName taskID
  let fullMeta := mergeMeta (taskMetaEntries taskID taskMeta.taskARN) c.service.meta
  let service := { c.service.toConsulType with
    id := serviceID
    service := serviceName
    meta := fullMeta
    address := taskMeta.nodeIP
    locality := getLocalityParams region taskMeta }
  Command.constructCatalogRegistrationPayload service taskMeta clusterARN

def Command.constructProxyRegistration (c : Config) (serviceRegistration : CatalogRegistration)
    (taskMeta : ECSTaskMeta) (clusterARN : String) : CatalogRegistration :=
  let (proxySvcID, proxySvcName) :=
    makeProxySvcIDAndName serviceRegistration.service.id serviceRegistration.service.service
  let proxyService : AgentService := {
    kind := serviceKindConnectProxy
    id := proxySvcID
    service := proxySvcName
    tags := serviceRegistration.service.tags
    meta := serviceRegistration.service.meta
    port := c.publicListenerPort
    address := taskMeta.nodeIP
    taggedAddresses := none
    weights := serviceRegistration.service.weights
    enableTagOverride := serviceRegistration.service.enableTagOverride
    proxy := some ⟨serviceRegistration.service.service, serviceRegistration.service.id,
      serviceRegistration.service.port⟩
    «namespace» := serviceRegistration.service.«namespace»
    partition := serviceRegistration.service.partition
    locality := serviceRegistration.service.locality }
  Command.constructCatalogRegistrationPayload proxyService taskMeta clusterARN

/-- What the `mesh-gateway` case of `constructGatewayProxyRegistration` sets: the gateway's port
and address, and the tagged addresses it collects. -/
structure MeshGatewayAddresses where
  port : Int
  address : String
  tagged : AddressMap

/-- The LAN address of a mesh gateway: its port, if positive, replaces the default port, and its
address, if nonempty, replaces the node's and is tagged as given. -/
def lanAddresses (k : Constants) (lanAddress : Option GatewayAddress) (nodeIP : String) :
    MeshGatewayAddresses :=
  match lanAddress with
  | none => ⟨k.defaultGatewayPort, nodeIP, []⟩
  | some lan =>
    let lanAddr := lan.toConsulType
    let port := if lanAddr.port > 0 then lanAddr.port else k.defaultGatewayPort
    if lanAddr.address ≠ "" then ⟨port, lanAddr.address, AddressMap.insert [] k.taggedAddressLAN lanAddr⟩
    else ⟨port, nodeIP, []⟩

/-- The WAN address of a mesh gateway: tagged when its address is nonempty, a zero port replaced
by the gateway's. -/
def wanAddresses (k : Constants) (wanAddress : Option GatewayAddress) (lan : MeshGatewayAddresses) :
    MeshGatewayAddresses :=
  match wanAddress with
  | none => lan
  | some wan =>
    let wanAddr := wan.toConsulType
    if wanAddr.address ≠ "" then
      let wanAddr := if wanAddr.port = 0 then { wanAddr with port := lan.port } else wanAddr
      { lan with tagged := lan.tagged.insert k.taggedAddressWAN wanAddr }
    else lan

/-- `constructGatewayProxyRegistration`, for the configuration's gateway `gateway`. -/
def Command.constructGatewayProxyRegistration (k : Constants) (c : Config) (gateway : GatewayRegistration)
    (taskMeta : ECSTaskMeta) (clusterARN : String) : CatalogRegistration :=
  let serviceName := Command.constructServiceName k c taskMeta.family
  let taskID := taskMeta.taskID
  let serviceID := makeServiceID serviceName taskID
  let gatewaySvc := { gateway.toConsulType with
    id := serviceID
    service := serviceName
    address := taskMeta.nodeIP
    meta := mergeMeta (taskMetaEntries taskID taskMeta.taskARN) gateway.meta }
  let gatewaySvc :=
    if gateway.kind = serviceKindMeshGateway then
      let addresses := wanAddresses k gateway.wanAddress (lanAddresses k gateway.lanAddress taskMeta.nodeIP)
      { gatewaySvc with
        port := addresses.port
        address := addresses.address
        taggedAddresses := if addresses.tagged.length > 0 then some addresses.tagged else gatewaySvc.taggedAddresses }
    else gatewaySvc
  Command.constructCatalogRegistrationPayload gatewaySvc taskMeta clusterARN

/-- The registrations `realRun` builds: the service's, which a gateway has not, and the proxy's,
which for a gateway is the gateway's. -/
def Command.registrations (k : Constants) (c : Config) (region : String) (taskMeta : ECSTaskMeta)
    (clusterARN : String) : Option CatalogRegistration × CatalogRegistration :=
  match c.gateway.filter (·.kind != "") with
  | some gateway => (none, Command.constructGatewayProxyRegistration k c gateway taskMeta clusterARN)
  | none =>
    let serviceRegistration := Command.constructServiceRegistration k c region taskMeta clusterARN
    (some serviceRegistration, Command.constructProxyRegistration c serviceRegistration taskMeta clusterARN)

/-- The catalog registrations `realRun` sends, in order: the gateway's alone, or the service's and
then its proxy's. -/
def Command.realRun (k : Constants) (c : Config) (region : String) (taskMeta : ECSTaskMeta)
    (clusterARN : String) : List CatalogRegistration :=
  (Command.registrations k c region taskMeta clusterARN).1.toList ++
    [(Command.registrations k c region taskMeta clusterARN).2]

end ConsulEcs.MeshInit
