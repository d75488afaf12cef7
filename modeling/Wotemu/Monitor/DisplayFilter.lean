import Wotemu.Cli.Boot
import Wotemu.Report.Store

/-! Which packets a capture keeps, and what it records of them.

The display filter keeps the ports of the environment, which the routing
configuration decodes as well.
-/

set_option autoImplicit false

namespace Wotemu

open Wotemu.Foundation

/-- What is read from a captured packet. Either end of a transport has its port. -/
structure Dissection where
  length : Int
  ip : Option (String × String)
  layers : List String
  sniffed : Rat
  tcp : Option (Nat × Nat)
  udp : Option (Nat × Nat)
  deriving DecidableEq

/-- The clauses of `_build_display_filter`, of which any may hold. -/
def buildDisplayFilter (conf : EnvConfig) : List (Proto × Int) :=
  [(.tcp, conf.portMqtt), (.tcp, conf.portHttp), (.tcp, conf.portWs), (.tcp, conf.portCoap), (.udp, conf.portCoap)]

namespace Dissection

variable (packet : Dissection)

def ports : Proto → Option (Nat × Nat)
  | .tcp => packet.tcp
  | .udp => packet.udp

/-- `tcp.port==80` holds of either end. -/
def satisfies (clause : Proto × Int) : Bool :=
  (packet.ports clause.1).any fun (sport, dport) => sport = clause.2 || dport = clause.2

def passes (filter : List (Proto × Int)) : Bool := filter.any packet.satisfies

/-- `_packet_to_dict`. The ports of UDP overwrite those of TCP. -/
def packetToDict : Except PyError Packet := do
  let (src, dst) ← packet.ip.elim (.error .attributeError) .ok
  let proto ← packet.layers.getLast?.elim (.error .indexError) .ok
  let transport ← packet.layers[2]?.elim (.error .indexError) .ok
  let ports := packet.udp.or packet.tcp
  return {
    time := packet.sniffed
    len := packet.length
    src
    dst
    proto
    transport
    srcport := ports.map Prod.fst
    dstport := ports.map Prod.snd }

end Dissection

/-- The capture shows a packet of the network stack, with one transport. -/
structure Dissection.Shows (shown : Dissection) (packet : Diversion.Packet) : Prop where
  ports : ∃ sport dport : Nat, shown.ports packet.proto = some (sport, dport) ∧ packet.sport = sport ∧
    packet.dport = dport
  single : ∀ proto, proto ≠ packet.proto → shown.ports proto = none
  ip : shown.ip.isSome = true
  layers : 2 < shown.layers.length

section Filters

variable {conf : EnvConfig} {shown : Dissection} {packet : Diversion.Packet}

theorem Dissection.Shows.satisfies_iff (shows : shown.Shows packet) {proto : Proto} {port : Int} :
    shown.satisfies (proto, port) = true ↔ proto = packet.proto ∧ ∃ side, packet.port side = port := by
  obtain ⟨sport, dport, found, source, destination⟩ := shows.ports
  have sides : (∃ side, packet.port side = port) ↔ (sport : Int) = port ∨ (dport : Int) = port := by
    constructor
    · rintro ⟨side, rfl⟩
      cases side with
      | dport => exact .inr destination.symm
      | sport => exact .inl source.symm
    · intro either
      rcases either with same | same
      · exact ⟨.sport, source.trans same⟩
      · exact ⟨.dport, destination.trans same⟩
  rw [sides]
  by_cases same : proto = packet.proto
  · subst same
    simp [Dissection.satisfies, found]
  · simp [Dissection.satisfies, shows.single proto same, same]

theorem Dissection.Shows.passes_iff (shows : shown.Shows packet) {filter : List (Proto × Int)} :
    shown.passes filter = true ↔ ∃ side, (packet.proto, packet.port side) ∈ filter := by
  unfold Dissection.passes
  rw [List.any_eq_true]
  constructor
  · rintro ⟨⟨proto, port⟩, listed, satisfied⟩
    obtain ⟨rfl, side, rfl⟩ := shows.satisfies_iff.mp satisfied
    exact ⟨side, listed⟩
  · rintro ⟨side, listed⟩
    exact ⟨_, listed, shows.satisfies_iff.mpr ⟨rfl, side, rfl⟩⟩

theorem Dissection.Shows.record (shows : shown.Shows packet) : ∃ record : Packet, shown.packetToDict = .ok record ∧
    record.srcport.map Int.ofNat = some packet.sport ∧ record.dstport.map Int.ofNat = some packet.dport := by
  obtain ⟨sport, dport, found, source, destination⟩ := shows.ports
  obtain ⟨⟨src, dst⟩, addresses⟩ := Option.isSome_iff_exists.mp shows.ip
  have long := shows.layers
  have last : shown.layers.getLast?.isSome = true := by
    rw [List.getLast?_isSome]
    intro empty
    simp [empty] at long
  obtain ⟨proto, isLast⟩ := Option.isSome_iff_exists.mp last
  have chosen : shown.udp.or shown.tcp = some (sport, dport) := by
    have others := shows.single
    cases transport : packet.proto with
    | tcp =>
      rw [transport] at found others
      have none : shown.udp = none := others .udp (by decide)
      rw [none]
      exact found
    | udp =>
      rw [transport] at found
      have some : shown.udp = some (sport, dport) := found
      rw [some]
      rfl
  refine ⟨_, by rw [Dissection.packetToDict, addresses, isLast, List.getElem?_eq_getElem long, chosen]; rfl, ?_, ?_⟩
  · exact congrArg some source.symm
  · exact congrArg some destination.symm

/-- The filter keeps nothing that the routing configuration would not mark. -/
theorem carried_of_listed {proto : Proto} {port : Int} (listed : (proto, port) ∈ buildDisplayFilter conf) :
    port ∈ Diversion.portsOf (portConfig conf) proto := by
  simp only [buildDisplayFilter, List.mem_cons, Prod.mk.injEq, List.not_mem_nil, or_false] at listed
  rcases listed with ⟨rfl, rfl⟩ | ⟨rfl, rfl⟩ | ⟨rfl, rfl⟩ | ⟨rfl, rfl⟩ | ⟨rfl, rfl⟩ <;>
    simp [Diversion.portsOf, PortConfig.portsTcp, PortConfig.portsUdp, portConfig]

end Filters

end Wotemu
