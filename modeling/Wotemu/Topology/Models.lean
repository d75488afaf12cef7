import Wotemu.Foundation.DistinctBy
import Wotemu.Foundation.Value

/-! The topology models and the checks that their constructors make.

A value of one of these structures is an object that its constructor accepted:
the checks are fields. Models compare equal when their names do, so the sets
that the properties build keep one object for each name. What the interpreter,
its environment and the third-party packages decide is collected in `Runtime`.
-/

set_option autoImplicit false

namespace Wotemu

open Wotemu.Foundation

/-- The environment variables, the iteration order of sets, `inflection.underscore`
and `always_merger.merge`. Merging leaves the keys that are not merged alone. -/
structure Runtime where
  getenv : String → Option String
  arrange : {α : Type} → List α → List α
  arrange_perm : ∀ {α : Type} (items : List α), (arrange items).Perm items
  underscore : String → String
  merge : Dict String Value → Dict String Value → Dict String Value
  merge_frame : ∀ (base next : Dict String Value) (key : String), key ∉ Dict.keys next →
    Dict.value? (merge base next) key = Dict.value? base key

namespace Runtime

def plain : Runtime where
  getenv := fun _ => none
  arrange := fun items => items
  arrange_perm := fun items => List.Perm.refl items
  underscore := fun name => name
  merge := Value.mergeEntries
  merge_frame := fun _ _ _ absent => Value.mergeEntries_frame absent

variable (rt : Runtime) {α : Type}

@[simp] theorem mem_arrange {items : List α} {item : α} : item ∈ rt.arrange items ↔ item ∈ items :=
  (rt.arrange_perm items).mem_iff

end Runtime

inductive ConfigVars where
  | portCatalogue
  | portHttp
  | portWs
  | portCoap
  | portMqtt
  | mqttBrokerHost
  | redisUrl
  | dockerProxyUrl
  deriving DecidableEq, Repr

def ConfigVars.value : ConfigVars → String
  | .portCatalogue => "PORT_CATALOGUE"
  | .portHttp => "PORT_HTTP"
  | .portWs => "PORT_WS"
  | .portCoap => "PORT_COAP"
  | .portMqtt => "PORT_MQTT"
  | .mqttBrokerHost => "MQTT_BROKER_HOST"
  | .redisUrl => "REDIS_URL"
  | .dockerProxyUrl => "DOCKER_PROXY_URL"

inductive NetworkConditions where
  | gprs
  | edge
  | regular3g
  | fast3g
  | lte
  | wifi
  | cable
  deriving DecidableEq, Repr

def netem (latency jitter : Nat) (rate : String) : String :=
  "\x7b\"latency\": " ++ toString latency ++ ", \"jitter\": " ++ toString jitter ++
    ", \"rate\": \"" ++ rate ++ "\"\x7d"

def netemConditions : NetworkConditions → List String
  | .gprs => [netem 700 100 "50kbit"]
  | .edge => [netem 700 100 "100kbit"]
  | .regular3g => [netem 300 150 "1500kbit"]
  | .fast3g => [netem 150 50 "4000kbit"]
  | .lte => [netem 40 10 "15mbit"]
  | .wifi => [netem 25 5 "50mbit"]
  | .cable => [netem 5 5 "100mbit"]

inductive BuiltinApps where
  | clock
  | error
  | reader
  | subscriber
  | worker
  | caller
  | mongoHistorian
  | camera
  | detector
  deriving DecidableEq, Repr

def BuiltinApps.value : BuiltinApps → String
  | .clock => "wotemu_clock"
  | .error => "wotemu_error"
  | .reader => "wotemu_reader"
  | .subscriber => "wotemu_subscriber"
  | .worker => "wotemu_worker"
  | .caller => "wotemu_caller"
  | .mongoHistorian => "wotemu_mongo_historian"
  | .camera => "wotemu_camera"
  | .detector => "wotemu_detector"

/-- `str(value) if value else None`, as the resource properties do. -/
def optionalStr (value : Value) : Option String :=
  if value.truthy then some value.pyStr else none

structure NodeResources where
  cpuLimitArg : Value := .none
  memLimitArg : Value := .none
  cpuReservationArg : Value := .none
  memReservationArg : Value := .none
  targetCpuSpeed : Value := .none
  exclusive : ¬ (cpuLimitArg.truthy = true ∧ targetCpuSpeed.truthy = true) := by decide

namespace NodeResources

variable (resources : NodeResources)

def cpuLimit : Option String := optionalStr resources.cpuLimitArg
def memLimit : Option String := optionalStr resources.memLimitArg
def cpuReservation : Option String := optionalStr resources.cpuReservationArg
def memReservation : Option String := optionalStr resources.memReservationArg

end NodeResources

structure NodeApp where
  pathArg : BuiltinApps ⊕ String
  enabledHttp : Bool := false
  enabledWs : Bool := false
  enabledMqtt : Bool := false
  enabledCoap : Bool := false
  params : List (Value × Value) := []
  deriving DecidableEq

namespace NodeApp

def path (app : NodeApp) : String :=
  match app.pathArg with
  | .inl builtin => builtin.value
  | .inr path => path

def appArgs (app : NodeApp) : List String :=
  ["--path", app.path] ++
  app.params.flatMap (fun param => ["--func-param", param.1.pyStr, param.2.pyStr]) ++
  ([(app.enabledHttp, "--enable-http"), (app.enabledWs, "--enable-ws"),
    (app.enabledMqtt, "--enable-mqtt"), (app.enabledCoap, "--enable-coap")].filter (·.1)).map (·.2)

end NodeApp

structure Network where
  name : String
  netem : List Value := []
  argsComposeGw : Dict String Value := []
  deriving DecidableEq

namespace Network

/-- The constructor: predefined conditions apply only without an explicit list. -/
def init (rt : Runtime) (name : String) (netem : List Value) (conditions : Option NetworkConditions)
    (argsComposeGw : Dict String Value) : Network where
  name := rt.underscore name
  netem := match conditions with
    | some conditions => if netem.isEmpty then (netemConditions conditions).map .str else netem
    | none => netem
  argsComposeGw := argsComposeGw

def nameGateway (network : Network) : String := "gw" ++ "_" ++ network.name

theorem nameGateway_injective {network other : Network} (same : network.nameGateway = other.nameGateway) :
    network.name = other.name :=
  (String.append_right_inj _).mp same

def cmdGateway (network : Network) : List Value := .str "gateway" :: network.netem

end Network

structure Broker where
  name : String
  networks : List Network
  argsCompose : Dict String Value := []
  deriving DecidableEq

namespace Broker

def init (rt : Runtime) (name : String) (networks : List Network)
    (argsCompose : Dict String Value) : Broker :=
  ⟨rt.underscore name, networks, argsCompose⟩

def cmd (_ : Broker) : List String := ["broker"]

end Broker

/-- A generic service. `object` tells apart objects built by separate calls of
the constructor, which `is` distinguishes even when all their fields agree. -/
structure Service where
  object : Nat
  name : String
  image : String
  params : Dict String Value := []
  deriving DecidableEq

structure Node where
  name : String
  app : NodeApp
  networks : List Network
  broker : Option Broker := none
  brokerNetworkArg : Option Network := none
  imageArg : Option String := none
  resources : Option NodeResources := none
  scale : Value := .none
  argsCompose : Dict String Value := []
  services : List Service := []
  broker_of_mqtt : app.enabledMqtt = true → broker.isSome = true := by decide
  broker_network_attached : ∀ b ∈ broker, ∀ net ∈ brokerNetworkArg,
    net.name ∈ b.networks.map Network.name := by decide
  services_distinct : (services.map Service.name).Nodup := by decide

theorem none_attached : ∀ b ∈ (none : Option Broker), ∀ net ∈ (none : Option Network),
    net.name ∈ b.networks.map Network.name := by decide

def Service.getNodeNetworkName (srv : Service) (node : Node) : String :=
  "srvnet_" ++ srv.name ++ "_" ++ node.name

namespace Node

def init (rt : Runtime) (name : String) (app : NodeApp) (networks : List Network)
    (broker : Option Broker) (brokerNetwork : Option Network) (image : Option String)
    (resources : Option NodeResources) (scale : Value) (argsCompose : Dict String Value)
    (services : List Service) : Except PyError Node :=
  if withBroker : app.enabledMqtt = true → broker.isSome = true then
    if attached : ∀ b ∈ broker, ∀ net ∈ brokerNetwork, net.name ∈ b.networks.map Network.name then
      .ok {
        name := rt.underscore name
        app, networks, broker, resources, scale, argsCompose
        brokerNetworkArg := brokerNetwork
        imageArg := image
        services := distinctBy Service.name services
        broker_of_mqtt := withBroker
        broker_network_attached := attached
        services_distinct := nodup_map_distinctBy _ _ }
    else .error .valueError
  else .error .valueError

def image (rt : Runtime) (node : Node) : String :=
  let default := (rt.getenv "WOTEMU_IMAGE_OVERRIDE").getD "agmangas/wotemu"
  match node.imageArg with
  | some image => if image = "" then default else image
  | none => default

def brokerNetwork (node : Node) : Except PyError (Option Network) :=
  match node.broker, node.brokerNetworkArg with
  | none, _ => .ok none
  | some broker, some network =>
    if network.name ∈ broker.networks.map Network.name then .ok (some network)
    else .error .assertionError
  | some broker, none => match broker.networks with
    | first :: _ => .ok (some first)
    | [] => .error .indexError

def cmdApp (node : Node) : List String := "app" :: node.app.appArgs

end Node

def clockNode (name : String) (srv : Option Service) : Node where
  name := name
  app := { pathArg := .inl .clock }
  networks := [{ name := "net" }]
  services := srv.toList
  services_distinct := by cases srv <;> simp

structure TopologyPorts where
  catalogue : Value := .int 9090
  http : Value := .int 80
  ws : Value := .int 81
  mqtt : Value := .int 1883
  coap : Value := .int 5683

def TopologyPorts.config (ports : TopologyPorts) : Dict String Value :=
  [(ConfigVars.portCatalogue.value, ports.catalogue),
   (ConfigVars.portHttp.value, ports.http),
   (ConfigVars.portWs.value, ports.ws),
   (ConfigVars.portMqtt.value, ports.mqtt),
   (ConfigVars.portCoap.value, ports.coap)]

structure TopologyRedis where
  enabled : Bool := true
  host : String := "redis"
  redisUrl : Option String := none
  url_given : enabled = false → redisUrl ≠ none ∧ redisUrl ≠ some "" := by decide

namespace TopologyRedis

def internal : TopologyRedis := {}

def internalUrl (redis : TopologyRedis) : Value :=
  if redis.enabled then .str ("redis://" ++ redis.host)
  else (redis.redisUrl.map Value.str).getD .none

def config (redis : TopologyRedis) : Dict String Value :=
  [(ConfigVars.redisUrl.value, redis.internalUrl)]

end TopologyRedis

structure TopologyDockerProxy where
  enabled : Bool := true
  host : String := "docker_api_proxy"

def TopologyDockerProxy.config (proxy : TopologyDockerProxy) : Dict String Value :=
  [(ConfigVars.dockerProxyUrl.value, .str ("tcp://" ++ proxy.host ++ ":2375/"))]

/-- `brokersArg` is the list that the caller passes as `brokers`; no list and an
empty one behave alike. The last two fields are the constructor's assertions. -/
structure Topology where
  nodes : List Node
  ports : TopologyPorts := {}
  redis : TopologyRedis := .internal
  dockerProxy : TopologyDockerProxy := {}
  brokersArg : List Broker := []
  distinct_nodes : (distinctBy Node.name nodes).length = nodes.length := by decide
  distinct_services :
    (distinctBy id ((distinctBy Service.name (nodes.flatMap Node.services)).map Service.name ++
      nodes.map Node.name)).length =
      ((distinctBy Service.name (nodes.flatMap Node.services)).map Service.name ++
        nodes.map Node.name).length := by decide

namespace Topology

variable (rt : Runtime) (t : Topology)

def config : Dict String Value :=
  Dict.update (Dict.update t.ports.config t.redis.config) t.dockerProxy.config

def brokerObjects : List Broker := t.brokersArg ++ t.nodes.filterMap Node.broker

def brokers : List Broker := rt.arrange (distinctBy Broker.name t.brokerObjects)

/-- What the caller's list holds once the property `brokers` was read: the `+=`
extends a list that is not empty in place. -/
def brokersArgAfterRead : List Broker :=
  -- an empty argument is replaced by a list that nobody else sees
  if t.brokersArg.isEmpty then [] else t.brokersArg ++ t.nodes.filterMap Node.broker

def networks : List Network :=
  let netsNode := distinctBy Network.name (t.nodes.flatMap Node.networks)
  let netsBrkr := distinctBy Network.name ((t.brokers rt).flatMap Broker.networks)
  rt.arrange (distinctBy Network.name (netsNode ++ netsBrkr))

def services : List Service :=
  rt.arrange (distinctBy Service.name (t.nodes.flatMap Node.services))

def getServiceNodes (service : Service) : List Node :=
  rt.arrange (distinctBy Node.name
    (t.nodes.flatMap fun node => (node.services.filter (· = service)).map fun _ => node))

/-- Reading `brokers` again, after the caller's list was extended, gives the same list. -/
theorem brokers_after_read :
    ({ t with brokersArg := t.brokersArgAfterRead } : Topology).brokers rt = t.brokers rt := by
  unfold brokers brokerObjects brokersArgAfterRead
  by_cases empty : t.brokersArg.isEmpty
  · have empty := List.isEmpty_iff.mp empty
    simp [empty]
  · rw [if_neg empty]
    congr 1
    -- the nodes' brokers come a second time, and the set drops them
    apply distinctBy_append_of_subset
    intro broker member
    exact List.mem_map_of_mem (List.mem_append_right _ member)

end Topology

end Wotemu
