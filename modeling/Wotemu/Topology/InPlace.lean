import Mathlib.Logic.Function.Basic
import Wotemu.Foundation.Objects
import Wotemu.Foundation.Programs
import Wotemu.Topology.Compose

/-! The generators again, as programs that change objects in place.

The lists that callers pass as brokers are kept by their identities, since
topologies may share one. Dictionaries carry their owners, and each change of
one is recorded; the objects of the models themselves are never assigned to.
-/

set_option autoImplicit false

namespace Wotemu.InPlace

open Wotemu.Foundation

structure Memory where
  lists : Nat → List Broker
  writes : List Owner

abbrev Program := EStateM PyError Memory

/-- A topology and the list that its caller passed as brokers, whose items are in the memory; no
list is an empty one that nobody shares. Scales and speeds are numbers or texts, which nothing can be merged into. -/
structure TopologyObject where
  topology : Topology
  list : Nat
  plain_scale : ∀ node ∈ topology.nodes, ∀ entries, node.scale ≠ .dict entries
  plain_speed : ∀ node ∈ topology.nodes, ∀ resources ∈ node.resources, ∀ entries,
    resources.targetCpuSpeed ≠ .dict entries

section Steps

def write (owners : List Owner) : Program Unit := modify fun memory =>
  { memory with writes := memory.writes ++ owners }

def ofExcept {α : Type} : Except PyError α → Program α
  | .ok value => pure value
  | .error why => throw why

/-- `target.update(entries)` -/
def update (target : Obj) (entries : Dict String Obj) : Program Obj :=
  match target with
  | .dict owner old => do
    write [owner]
    return .dict owner (Dict.update old entries)
  | _ => throw .attributeError

/-- `always_merger.merge(base, next)` -/
def mergeInto (merger : Merger) (base next : Obj) : Program Obj := do
  write (merger.writes base next)
  return merger.merge base next

def baseCopy (base : Dict String Value) : Obj := (Obj.ofValue .base (.dict base)).deepcopy

def withNested (outer : Obj) (key : String) (nested : Obj) : Obj :=
  match outer with
  | .dict owner entries => .dict owner (Dict.assign entries key nested)
  | other => other

def emptyDict : Obj := .dict .made []

def isEmptyDict : Obj → Bool
  | .dict _ entries => entries.isEmpty
  | _ => true

end Steps

section Properties

variable (rt : Runtime) (o : TopologyObject)

def nodeBrokers : List Broker := o.topology.nodes.filterMap Node.broker

/-- The `+=` extends the caller's list, unless an empty one is replaced by a new list. -/
def brokers : Program (List Broker) := do
  let memory ← get
  let own := memory.lists o.list
  if own.isEmpty then return rt.arrange (distinctBy Broker.name (nodeBrokers o))
  else do
    let extended := own ++ nodeBrokers o
    set { memory with lists := Function.update memory.lists o.list extended }
    return rt.arrange (distinctBy Broker.name extended)

def networks : Program (List Network) := do
  let brokers ← brokers rt o
  let netsNode := distinctBy Network.name (o.topology.nodes.flatMap Node.networks)
  let netsBrkr := distinctBy Network.name (brokers.flatMap Broker.networks)
  return rt.arrange (distinctBy Network.name (netsNode ++ netsBrkr))

end Properties

section Generators

variable (rt : Runtime) (merger : Merger) (o : TopologyObject)

def mergeTopologyConfig (service : Obj) : Program Obj := do
  let entries := (o.topology.config.filter (fun entry => entry.2 ≠ .none)).map fun entry =>
    (entry.1, Obj.atom (.str entry.2.pyStr))
  let envr ← update ((service.get "environment").getD emptyDict) entries
  update service [("environment", envr)]

def mergeArgsCompose (service : Obj) (argsCompose : Dict String Value) : Program Obj :=
  if argsCompose.isEmpty then return service
  else mergeInto merger service (Obj.ofValue .supplied (.dict argsCompose))

/-- `if params.get(param): service[key].update(params[param])` -/
def mergeParam (params : Dict String Value) (param key : String) (service : Obj) : Program Obj :=
  let value := (Dict.value? params param).getD .none
  if value.truthy then do
    let entries ← ofExcept value.asEntries
    let nested ← update ((service.get key).getD emptyDict) (Obj.ofEntries .supplied entries)
    return withNested service key nested
  else return service

/-- `params[key][field]`, when the parameter is given. -/
def deployParam (params : Dict String Value) (key field : String) (wrap : Obj → Obj) (deploy : Obj) : Program Obj :=
  let value := (Dict.value? params key).getD .none
  if value.truthy then do
    let found ← ofExcept (value.item field)
    update deploy [(key, wrap (Obj.ofValue .supplied found))]
  else return deploy

/-- `if len(deploy) > 0: service.update({"deploy": deploy})` -/
def updateDeploy (deploy service : Obj) : Program Obj :=
  if isEmptyDict deploy then return service else update service [("deploy", deploy)]

def getDockerProxyDefinition : Program (Dict String Obj) := do
  let nets ← networks rt o
  let service ← update (baseCopy serviceBaseDockerProxy)
    [("networks", Obj.ofValue .made (.ofStrings (nets.map Network.name)))]
  return [(o.topology.dockerProxy.host, service)]

def getRedisDefinition : Program (Dict String Obj) := do
  let nets ← networks rt o
  let service ← update (baseCopy serviceBaseRedis)
    [("networks", Obj.ofValue .made (.ofStrings (nets.map Network.name))),
     ("ports", Obj.ofValue .made (.ofStrings ["6379"]))]
  return [(o.topology.redis.host, service)]

def getGenericServiceDefinition (srv : Service) : Program (Dict String Obj) := do
  let service ← mergeParam srv.params "env" "environment" (baseCopy serviceBaseGeneric)
  let service ← mergeParam srv.params "labels" "labels" service
  let deploy ← deployParam srv.params "restart_policy" "Condition" (fun found => .dict .made [("condition", found)])
    emptyDict
  let deploy ← deployParam srv.params "mode" "Mode" id deploy
  let service ← updateDeploy deploy service
  let service ← update service
    [("image", .atom (.str srv.image)),
     ("networks", Obj.ofValue .made (.ofStrings ((o.topology.getServiceNodes rt srv).map srv.getNodeNetworkName)))]
  return [(srv.name, service)]

def getNetworkGatewayDefinition (network : Network) : Program (Dict String Obj) := do
  let service ← update (baseCopy serviceBaseGateway)
    [("image", Obj.ofValue .made (imageOverride rt)),
     -- the command is a new list with the items of the network's own
     ("command", .list .made (.atom (.str "gateway") :: Obj.ofItems .supplied network.netem)),
     ("networks", Obj.ofValue .made (.ofStrings [network.name])),
     ("depends_on", Obj.ofValue .made (.ofStrings (coreDependsOn o.topology)))]
  let service ← mergeArgsCompose merger service network.argsComposeGw
  let service ← mergeTopologyConfig o service
  return [(network.nameGateway, service)]

def getNetworkDefinition (network : Network) : Program (Dict String Obj) := do
  let definition ← update (baseCopy networkBase) [("name", .atom (.str network.name))]
  return [(network.name, definition)]

def getBrokerDefinition (broker : Broker) : Program (Dict String Obj) := do
  let service ← update (baseCopy serviceBaseBroker)
    [("image", Obj.ofValue .made (imageOverride rt)),
     ("command", Obj.ofValue .made (.ofStrings broker.cmd)),
     ("networks", Obj.ofValue .made (.ofStrings (broker.networks.map Network.name))),
     ("depends_on", Obj.ofValue .made
       (.ofStrings (broker.networks.map Network.nameGateway ++ coreDependsOn o.topology)))]
  let service ← mergeArgsCompose merger service broker.argsCompose
  let service ← mergeTopologyConfig o service
  return [(broker.name, service)]

def mergeBrokerHost (node : Node) (brokerNetwork : Option Network) (envr : Obj) : Program Obj :=
  match node.broker, brokerNetwork with
  | some broker, some network =>
    update envr [(ConfigVars.mqttBrokerHost.value, .atom (.str (broker.name ++ "." ++ network.name)))]
  | _, _ => return envr

def mergeTargetSpeed (node : Node) (service : Obj) : Program Obj :=
  match node.resources with
  | some resources =>
    if resources.targetCpuSpeed.truthy then
      mergeInto merger service (.dict .made [("environment", .dict .made
        [("TARGET_CPU_SPEED", Obj.ofValue .supplied resources.targetCpuSpeed)])])
    else return service
  | none => return service

def updateResources (node : Node) (deploy : Obj) : Program Obj :=
  match node.resources.bind getNodeResourcesDefinition with
  | some resources => update deploy [("resources", Obj.ofValue .made (.dict resources))]
  | none => return deploy

def nodeDeploy (node : Node) (deploy : Obj) : Program Obj := do
  let deploy ← updateResources node deploy
  if node.scale.truthy then update deploy [("replicas", Obj.ofValue .supplied node.scale)] else return deploy

def getNodeDefinition (node : Node) : Program (Dict String Obj) := do
  let service := baseCopy serviceBaseNode
  let brokerNetwork ← ofExcept node.brokerNetwork
  let envr ← mergeBrokerHost node brokerNetwork ((service.get "environment").getD emptyDict)
  let service ← update (withNested service "environment" envr)
    [("image", .atom (.str (node.image rt))),
     ("command", Obj.ofValue .made (.ofStrings node.cmdApp)),
     ("networks", Obj.ofValue .made (.ofStrings (rt.arrange (distinctBy id (nodeNetworks node brokerNetwork))))),
     ("depends_on", Obj.ofValue .made
       (.ofStrings (rt.arrange (distinctBy id (nodeDependsOn o.topology node brokerNetwork))))),
     ("environment", envr)]
  let service ← mergeTargetSpeed merger node service
  let deploy ← nodeDeploy node ((service.get "deploy").getD emptyDict)
  let service ← updateDeploy deploy service
  let service ← mergeArgsCompose merger service node.argsCompose
  let service ← mergeTopologyConfig o service
  return [(node.name, service)]

def serviceNetworks (srv : Service) : Program (Dict String Obj) :=
  (o.topology.getServiceNodes rt srv).foldlM (fun nets node => do
    let name := srv.getNodeNetworkName node
    let definition ← update (baseCopy networkServiceBase) [("name", .atom (.str name))]
    return Dict.update nets [(name, definition)]) []

/-- `for item in items: target.update(generate(item))` -/
def updateEach {α : Type} (generate : α → Program (Dict String Obj)) (items : List α) (target : Obj) :
    Program Obj :=
  items.foldlM (fun target item => do
    let entries ← generate item
    update target entries) target

/-- `if enabled: target.update(generate())` -/
def updateIf (enabled : Bool) (generate : Program (Dict String Obj)) (target : Obj) : Program Obj :=
  if enabled then do
    let entries ← generate
    update target entries
  else return target

def emulatedServices (services : Obj) : Program Obj := do
  let nets ← networks rt o
  let services ← updateEach (getNetworkGatewayDefinition rt merger o) nets services
  let services ← updateEach (getGenericServiceDefinition rt o) (o.topology.services rt) services
  let services ← updateEach (getNodeDefinition rt merger o) o.topology.nodes services
  let brks ← brokers rt o
  updateEach (getBrokerDefinition rt merger o) brks services

def networkDefinitions : Program Obj := do
  let nets ← networks rt o
  let definitions ← updateEach getNetworkDefinition nets emptyDict
  updateEach (serviceNetworks rt o) (o.topology.services rt) definitions

def getTopologyDefinition : Program Obj := do
  let services ← updateIf o.topology.dockerProxy.enabled (getDockerProxyDefinition rt o) emptyDict
  let services ← updateIf o.topology.redis.enabled (getRedisDefinition rt o) services
  let services ← emulatedServices rt merger o services
  let definitions ← networkDefinitions rt o
  return .dict .made [("version", .atom (.str "3.7")), ("services", services), ("networks", definitions)]

end Generators

inductive Operation where
  | toComposeDict
  | brokers
  | networks
  | services
  deriving DecidableEq

inductive Returned where
  | definition (definition : Obj)
  | brokers (brokers : List Broker)
  | networks (networks : List Network)
  | services (services : List Service)

def Operation.perform (rt : Runtime) (merger : Merger) (o : TopologyObject) : Operation → Program Returned
  | .toComposeDict => do
    let definition ← getTopologyDefinition rt merger o
    return .definition definition
  | .brokers => do
    let found ← InPlace.brokers rt o
    return .brokers found
  | .networks => do
    let found ← InPlace.networks rt o
    return .networks found
  | .services => return .services (o.topology.services rt)

end Wotemu.InPlace
