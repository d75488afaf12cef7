import Wotemu.Foundation.Numerals
import Wotemu.Foundation.Separated
import Wotemu.Topology.Compose

/-! The configuration that a container reads from its environment. -/

set_option autoImplicit false

namespace Wotemu

open Wotemu.Foundation

structure EnvConfig where
  portCatalogue : Int
  portHttp : Int
  portCoap : Int
  portWs : Int
  portMqtt : Int
  mqttBrokerHost : Option String
  mqttUrl : Option String
  redisUrl : String
  dockerProxyUrl : String
  otherPortsTcp : Value
  otherPortsUdp : Value
  deriving DecidableEq

section Decoding

variable (getenv : String → Option String)

def getenvInt (name : String) (default : Int) : Int :=
  match getenv name with
  | some text => (parseInt text).getD default
  | none => default

/-- `_parse_ports`: one item that is no integer spoils the list. -/
def parsePorts (val : String) : Value :=
  match (split ',' val).mapM parseInt with
  | some ports => .list (ports.map .int)
  | none => .none

/-- `val and _parse_ports(val)`, where an empty text stays. -/
def otherPorts (val : Option String) : Value :=
  match val with
  | none => .none
  | some text => if text = "" then .str "" else parsePorts text

def getEnvConfig : EnvConfig :=
  let portMqtt := getenvInt getenv ConfigVars.portMqtt.value 1883
  let mqttBrokerHost := getenv ConfigVars.mqttBrokerHost.value
  { portCatalogue := getenvInt getenv ConfigVars.portCatalogue.value 9090
    portHttp := getenvInt getenv ConfigVars.portHttp.value 80
    portCoap := getenvInt getenv ConfigVars.portCoap.value 5683
    portWs := getenvInt getenv ConfigVars.portWs.value 81
    portMqtt
    mqttBrokerHost
    mqttUrl := match mqttBrokerHost with
      | some host => if portMqtt ≠ 0 ∧ host ≠ "" then some ("mqtt://" ++ host ++ ":" ++ toString portMqtt) else none
      | none => none
    redisUrl := (getenv ConfigVars.redisUrl.value).getD "redis://redis"
    dockerProxyUrl := (getenv ConfigVars.dockerProxyUrl.value).getD "tcp://docker_api_proxy:2375/"
    otherPortsTcp := otherPorts (getenv "OTHER_PORTS_TCP")
    otherPortsUdp := otherPorts (getenv "OTHER_PORTS_UDP") }

end Decoding

/-- The environment that a service definition gives to its containers. A name without a value
is not set. -/
def containerEnv (service : Value) (name : String) : Option String :=
  match service.field "environment" with
  | some (.dict envr) => match Dict.value? envr name with
    | some .none => none
    | some value => some value.pyStr
    | none => none
  | _ => none

example : (getEnvConfig fun name => if name = "PORT_HTTP" then some " 8_080 " else none).portHttp = 8080 := by decide

end Wotemu
