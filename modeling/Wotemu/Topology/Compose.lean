import Wotemu.Foundation.Updates
import Wotemu.Topology.Models

/-! The generators that turn a topology into a Compose definition.

Each generator returns the dictionary with one entry that the source returns.
Dictionaries given by the user are merged with `Runtime.merge`; every other
step changes only the keys it names, which the frame lemmas record.
-/

set_option autoImplicit false

namespace Wotemu

open Wotemu.Foundation

inductive Labels where
  | network
  | gateway
  | node
  | broker
  | redis
  | service
  | serviceNetwork
  deriving DecidableEq, Repr

def Labels.value : Labels → String
  | .network => "org.fundacionctic.wotemu.net"
  | .gateway => "org.fundacionctic.wotemu.gw"
  | .node => "org.fundacionctic.wotemu.node"
  | .broker => "org.fundacionctic.wotemu.broker"
  | .redis => "org.fundacionctic.wotemu.redis"
  | .service => "org.fundacionctic.wotemu.service"
  | .serviceNetwork => "org.fundacionctic.wotemu.servicenet"

def labelled (label : Labels) : Value := .dict [(label.value, .str "")]

def volDockerSock : String := "/var/run/docker.sock:/var/run/docker.sock"

def serviceBaseDockerProxy : Dict String Value :=
  [("image", .str "tecnativa/docker-socket-proxy"),
   ("environment", .dict [("CONTAINERS", .str "1"), ("NETWORKS", .str "1"), ("TASKS", .str "1"),
     ("SERVICES", .str "1"), ("NODES", .str "1")]),
   ("deploy", .dict [("placement", .dict [("constraints", .ofStrings ["node.role == manager"])])]),
   ("cap_add", .ofStrings ["ALL"]),
   ("volumes", .ofStrings [volDockerSock])]

def serviceBaseRedis : Dict String Value :=
  [("image", .str "redis:5"), ("labels", labelled .redis)]

def environmentBase : Dict String Value :=
  [("NODE_HOSTNAME", .str "\x7b\x7b.Node.Hostname\x7d\x7d"),
   ("NODE_ID", .str "\x7b\x7b.Node.ID\x7d\x7d"),
   ("SERVICE_NAME", .str "\x7b\x7b.Service.Name\x7d\x7d"),
   ("SERVICE_ID", .str "\x7b\x7b.Service.ID\x7d\x7d")]

def templateTaskName : Value := .str "\x7b\x7b.Task.Name\x7d\x7d"

def serviceBaseGeneric : Dict String Value :=
  [("hostname", templateTaskName), ("labels", labelled .service), ("environment", .dict environmentBase)]

def serviceBase (label : Labels) : Dict String Value :=
  [("cap_add", .ofStrings ["ALL"]), ("hostname", templateTaskName),
   ("volumes", .ofStrings [volDockerSock]), ("labels", labelled label),
   ("environment", .dict environmentBase)]

def serviceBaseGateway : Dict String Value := serviceBase .gateway
def serviceBaseBroker : Dict String Value := serviceBase .broker
def serviceBaseNode : Dict String Value := serviceBase .node

def networkBase : Dict String Value :=
  [("driver", .str "overlay"), ("attachable", .bool true), ("labels", labelled .network)]

def networkServiceBase : Dict String Value :=
  [("driver", .str "overlay"), ("attachable", .bool true), ("labels", labelled .serviceNetwork)]

section Steps

variable (rt : Runtime) (t : Topology)

def mergeTopologyConfig (service : Dict String Value) : Except PyError (Dict String Value) :=
  match (Dict.value? service "environment").getD (.dict []) with
  | .dict envr =>
    let entries := (t.config.filter (fun entry => entry.2 ≠ .none)).map fun entry =>
      (entry.1, Value.str entry.2.pyStr)
    .ok (Dict.assign service "environment" (.dict (Dict.update envr entries)))
  | _ => .error .attributeError

/-- `always_merger.merge` with the dictionary given by the user, if there is one. -/
def mergeArgsCompose (service argsCompose : Dict String Value) : Dict String Value :=
  if argsCompose.isEmpty then service else rt.merge service argsCompose

/-- `service[key].update(value)` -/
def updateAttribute (service : Dict String Value) (key : String) (value : Value) :
    Except PyError (Dict String Value) := do
  let entries ← value.asEntries
  return Dict.assign service key (.dict (Dict.update (Dict.entriesAt service key) entries))

/-- `if params.get(param): service[key].update(params[param])` -/
def mergeParam (params : Dict String Value) (param key : String) (service : Dict String Value) :
    Except PyError (Dict String Value) :=
  let value := (Dict.value? params param).getD .none
  if value.truthy then updateAttribute service key value else .ok service

/-- The proxy and Redis, as far as they are enabled: every emulated service waits for them. -/
def coreDependsOn : List String :=
  (if t.dockerProxy.enabled then [t.dockerProxy.host] else []) ++
  (if t.redis.enabled then [t.redis.host] else [])

def imageOverride : Value := .str ((rt.getenv "WOTEMU_IMAGE_OVERRIDE").getD "agmangas/wotemu")

end Steps

section Generators

variable (rt : Runtime) (t : Topology)

def getDockerProxyDefinition : Dict String Value :=
  let service := Dict.update serviceBaseDockerProxy
    [("networks", .ofStrings ((t.networks rt).map Network.name))]
  [(t.dockerProxy.host, .dict service)]

def getRedisDefinition : Dict String Value :=
  let service := Dict.update serviceBaseRedis
    [("networks", .ofStrings ((t.networks rt).map Network.name)), ("ports", .ofStrings ["6379"])]
  [(t.redis.host, .dict service)]

/-- `params[key]["Condition"]` or `params[key]["Mode"]`, when the parameter is given. -/
def deployParam (params : Dict String Value) (key field : String) (wrap : Value → Value) :
    Except PyError (Dict String Value) :=
  let value := (Dict.value? params key).getD .none
  if value.truthy then do
    let found ← value.item field
    return [(key, wrap found)]
  else .ok []

def getGenericServiceDefinition (srv : Service) : Except PyError (Dict String Value) := do
  let service ← mergeParam srv.params "env" "environment" serviceBaseGeneric
  let service ← mergeParam srv.params "labels" "labels" service
  let restartPolicy ← deployParam srv.params "restart_policy" "Condition" fun found =>
    .dict [("condition", found)]
  let mode ← deployParam srv.params "mode" "Mode" id
  let deploy := restartPolicy ++ mode
  let service := if deploy.isEmpty then service else Dict.update service [("deploy", .dict deploy)]
  let service := Dict.update service
    [("image", .str srv.image),
     ("networks", .ofStrings ((t.getServiceNodes rt srv).map srv.getNodeNetworkName))]
  return [(srv.name, .dict service)]

def getNetworkGatewayDefinition (network : Network) : Except PyError (Dict String Value) := do
  let service := Dict.update serviceBaseGateway
    [("image", imageOverride rt),
     ("command", .list network.cmdGateway),
     ("networks", .ofStrings [network.name]),
     ("depends_on", .ofStrings (coreDependsOn t))]
  let service := mergeArgsCompose rt service network.argsComposeGw
  let service ← mergeTopologyConfig t service
  return [(network.nameGateway, .dict service)]

def getNetworkDefinition (network : Network) : Dict String Value :=
  [(network.name, .dict (Dict.update networkBase [("name", .str network.name)]))]

def getBrokerDefinition (broker : Broker) : Except PyError (Dict String Value) := do
  let service := Dict.update serviceBaseBroker
    [("image", imageOverride rt),
     ("command", .ofStrings broker.cmd),
     ("networks", .ofStrings (broker.networks.map Network.name)),
     ("depends_on", .ofStrings (broker.networks.map Network.nameGateway ++ coreDependsOn t))]
  let service := mergeArgsCompose rt service broker.argsCompose
  let service ← mergeTopologyConfig t service
  return [(broker.name, .dict service)]

def resourceSection (cpus memory : Option String) : Dict String Value :=
  (cpus.map fun value => ("cpus", Value.str value)).toList ++
  (memory.map fun value => ("memory", Value.str value)).toList

def getNodeResourcesDefinition (resources : NodeResources) : Option (Dict String Value) :=
  let limits := resourceSection resources.cpuLimit resources.memLimit
  let reserv := resourceSection resources.cpuReservation resources.memReservation
  let ret := (if limits.isEmpty then [] else [("limits", Value.dict limits)]) ++
    (if reserv.isEmpty then [] else [("reservations", Value.dict reserv)])
  if ret.isEmpty then none else some ret

/-- The networks, dependencies and environment of a node before deduplication.
The broker host names the broker and the network through which it is reached. -/
def nodeNetworks (node : Node) (brokerNetwork : Option Network) : List String :=
  node.networks.map Network.name ++ node.services.map (·.getNodeNetworkName node) ++
    (brokerNetwork.map Network.name).toList

def nodeDependsOn (node : Node) (brokerNetwork : Option Network) : List String :=
  node.networks.map Network.nameGateway ++ coreDependsOn t ++
    (brokerNetwork.map Network.nameGateway).toList

def nodeEnvironment (node : Node) (brokerNetwork : Option Network) : Dict String Value :=
  match node.broker, brokerNetwork with
  | some broker, some network =>
    Dict.update environmentBase
      [(ConfigVars.mqttBrokerHost.value, .str (broker.name ++ "." ++ network.name))]
  | _, _ => environmentBase

def nodeDeploy (node : Node) : Dict String Value :=
  let deploy := match node.resources.bind getNodeResourcesDefinition with
    | some resources => [("resources", Value.dict resources)]
    | none => []
  if node.scale.truthy then Dict.update deploy [("replicas", node.scale)] else deploy

def mergeTargetSpeed (node : Node) (service : Dict String Value) : Dict String Value :=
  match node.resources with
  | some resources =>
    if resources.targetCpuSpeed.truthy then
      rt.merge service [("environment", .dict [("TARGET_CPU_SPEED", resources.targetCpuSpeed)])]
    else service
  | none => service

def getNodeDefinition (node : Node) : Except PyError (Dict String Value) := do
  let brokerNetwork ← node.brokerNetwork
  let service := Dict.update serviceBaseNode
    [("image", .str (node.image rt)),
     ("command", .ofStrings node.cmdApp),
     ("networks", .ofStrings (rt.arrange (distinctBy id (nodeNetworks node brokerNetwork)))),
     ("depends_on", .ofStrings (rt.arrange (distinctBy id (nodeDependsOn t node brokerNetwork)))),
     ("environment", .dict (nodeEnvironment node brokerNetwork))]
  let service := mergeTargetSpeed rt node service
  let deploy := nodeDeploy node
  let service := if deploy.isEmpty then service else Dict.update service [("deploy", .dict deploy)]
  let service := mergeArgsCompose rt service node.argsCompose
  let service ← mergeTopologyConfig t service
  return [(node.name, .dict service)]

def serviceNetworks (srv : Service) : Dict String Value :=
  (t.getServiceNodes rt srv).foldl (fun nets node =>
    let netName := srv.getNodeNetworkName node
    Dict.update nets [(netName, .dict (Dict.update networkServiceBase [("name", .str netName)]))]) []

end Generators

structure Definition where
  version : String
  services : Dict String Value
  networks : Dict String Value
  deriving DecidableEq

def document (D : Definition) : Value :=
  .dict [("version", .str D.version), ("services", .dict D.services), ("networks", .dict D.networks)]

def getTopologyDefinition (rt : Runtime) (t : Topology) : Except PyError Definition := do
  let services := []
  let services := if t.dockerProxy.enabled then
    Dict.update services (getDockerProxyDefinition rt t) else services
  let services := if t.redis.enabled then Dict.update services (getRedisDefinition rt t) else services
  let services ← updateEach (getNetworkGatewayDefinition rt t) (t.networks rt) services
  let services ← updateEach (getGenericServiceDefinition rt t) (t.services rt) services
  let services ← updateEach (getNodeDefinition rt t) t.nodes services
  let services ← updateEach (getBrokerDefinition rt t) (t.brokers rt) services
  let networks ← updateEach (fun net => .ok (getNetworkDefinition net)) (t.networks rt) []
  let networks ← updateEach (fun srv => .ok (serviceNetworks rt t srv)) (t.services rt) networks
  return { version := "3.7", services, networks }

def Topology.toComposeDict (rt : Runtime) (t : Topology) : Except PyError Definition :=
  getTopologyDefinition rt t

end Wotemu
