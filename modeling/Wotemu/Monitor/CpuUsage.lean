import Mathlib.Algebra.Order.Field.Basic
import Mathlib.Algebra.Order.Field.Rat
import Mathlib.Data.PNat.Basic
import Mathlib.Tactic.Linarith
import Wotemu.Foundation.Programs
import Wotemu.Foundation.Transition
import Wotemu.Foundation.Windows
import Wotemu.Report.Store

/-! The CPU and memory usage of a container.

The CPU usage compares two counters with their values at the reading before,
which the module keeps. They are replaced before the reading is complete.
-/

set_option autoImplicit false

namespace Wotemu.SystemMonitor

open Wotemu.Foundation

/-- `psutil.cpu_times()`: seconds over all CPUs. The times of guests are part of `user` and `nice`. -/
structure CpuTimes where
  user : Rat
  nice : Rat
  system : Rat
  idle : Rat
  iowait : Rat
  irq : Rat
  softirq : Rat
  steal : Rat

/-- What is answered during one reading: by the clock, the `cgget` command, which may fail, and psutil,
which may raise or not know the number of CPUs. -/
structure Answers where
  time : Rat
  cgget : String → Option Int
  cpuTimes : Option CpuTimes
  cpuCount : Option ℕ+
  memTotal : Option Nat

def cpuUsage : String := "cpuacct.usage"

def cpuPeriod : String := "cpu.cfs_period_us"

def cpuQuota : String := "cpu.cfs_quota_us"

def memLimit : String := "memory.limit_in_bytes"

def memUsage : String := "memory.usage_in_bytes"

inductive ReadingError where
  | cggetError (key : String)
  | psutilError
  | typeError
  | zeroDivisionError
  deriving DecidableEq

/-- `_times` -/
structure Times where
  system : Option Rat
  cgroup : Option Int
  deriving DecidableEq

structure ModuleState where
  times : Times
  cache : Dict String (Option Int)

def ModuleState.initial : ModuleState where
  times := ⟨none, none⟩
  cache := []

abbrev Program := EStateM ReadingError ModuleState

structure CpuData where
  cpuPercent : Rat
  cpuPercentConstraint : Option Rat

structure MemoryData where
  memMb : Rat
  memPercent : Rat

section Readings

-- how floats are rounded to a number of digits is left open
variable (round : Rat → Nat → Rat) (answers : Answers)

def nanosSystem (cput : CpuTimes) : Rat := (cput.user + cput.system + cput.idle) * 10 ^ 9

def getCpuNanosSystem : Program Rat := match answers.cpuTimes with
  | none => throw .psutilError
  | some cput => return nanosSystem cput

def getCpuNanos : Program Int := match answers.cgget cpuUsage with
  | none => throw (.cggetError cpuUsage)
  | some usage => return usage

def updateTimes (system : Rat) (cgroup : Int) : Program Unit :=
  modify fun state => { state with times := ⟨some system, some cgroup⟩ }

def updateTimesState : Program Unit := do
  let system ← getCpuNanosSystem answers
  let cgroup ← getCpuNanos answers
  updateTimes system cgroup

def percentOf (deltaCpu deltaSys : Rat) : Program Rat :=
  if deltaCpu > 0 ∧ deltaSys > 0 then match answers.cpuCount with
    -- the product with `None`
    | none => throw .typeError
    | some count => return deltaCpu / deltaSys * (count : Nat) * 100
  else return 0

def getCpuPercent : Program (Option Rat) := do
  match (← get).times with
  | ⟨some system, some cgroup⟩ => do
    let currCpu ← getCpuNanos answers
    let currSys ← getCpuNanosSystem answers
    updateTimes currSys currCpu
    let percent ← percentOf answers (currCpu - cgroup) (currSys - system)
    return some percent
  | _ => do
    updateTimesState answers
    return none

/-- `_cgget_cpu_period` and `_cgget_cpu_quota`: a value that was read once is not read again. -/
def cggetCached (key : String) : Program Int := do
  match (Dict.value? (← get).cache key).join with
  | some value => return value
  | none => match answers.cgget key with
    | none => throw (.cggetError key)
    | some value => do
      modify fun state => { state with cache := Dict.assign state.cache key (some value) }
      return value

def cggetCpuPeriod : Program Int := cggetCached answers cpuPeriod

def cggetCpuQuota : Program Int := cggetCached answers cpuQuota

def getCpuConstraint : Program (Option Rat) := do
  let period ← cggetCpuPeriod answers
  let quota ← cggetCpuQuota answers
  if quota > 0 then
    if period = 0 then throw .zeroDivisionError else return some (quota / period)
  else return none

def getCpu : Program (Option CpuData) := do
  match ← getCpuPercent answers with
  | none => return none
  | some cpuPercent => do
    let cpuConstraint ← getCpuConstraint answers
    return some {
      cpuPercent := round cpuPercent 1
      -- a constraint is not zero
      cpuPercentConstraint := cpuConstraint.map fun constraint => round (cpuPercent / 100 / constraint * 100) 1 }

/-- `_cgget_mem_limit` keeps what the command gave, also when it failed. -/
def cggetMemLimit : Program (Option Int) := do
  match (Dict.value? (← get).cache memLimit).join with
  | some value => return some value
  | none => do
    modify fun state => { state with cache := Dict.assign state.cache memLimit (answers.cgget memLimit) }
    return answers.cgget memLimit

def getMemoryLimit : Program Int := do
  let limitBytes ← cggetMemLimit answers
  match answers.memTotal with
  | none => throw .psutilError
  | some total => match limitBytes with
    | some limit => return if limit ≠ 0 ∧ limit < total then limit else total
    | none => return total

def getMemory : Program MemoryData := do
  match answers.cgget memUsage with
  | none => throw (.cggetError memUsage)
  | some usage => do
    let limit ← getMemoryLimit answers
    let memUsageMb : Rat := usage / 1024 ^ 2
    let memLimitMb : Rat := limit / 1024 ^ 2
    if memLimitMb = 0 then throw .zeroDivisionError
    else return { memMb := round memUsageMb 2, memPercent := round (memUsageMb / memLimitMb * 100) 1 }

/-- A call in the loop of `_read_system`, which goes on after an exception. -/
def attempt {α : Type} (program : Program α) (state : ModuleState) : Option α × ModuleState :=
  match program.run state with
  | .ok value after => (some value, after)
  | .error _ after => (none, after)

/-- `_read_system` with `_get_cpu` and `_get_memory`. -/
def readSystem (state : ModuleState) : SystemSample × ModuleState :=
  let cpu := attempt (getCpu round answers) state
  let memory := attempt (getMemory round answers) cpu.2
  ({ time := answers.time
     cpuPercent := cpu.1.join.map CpuData.cpuPercent
     memMb := memory.1.map MemoryData.memMb
     memPercent := memory.1.map MemoryData.memPercent }, memory.2)

end Readings

structure Counters where
  usage : Int
  host : CpuTimes

/-- What `_times` keeps of them. -/
def Counters.times (counters : Counters) : Times := ⟨some (nanosSystem counters.host), some counters.usage⟩

def Answers.counters (answers : Answers) : Option Counters :=
  match answers.cgget cpuUsage, answers.cpuTimes with
  | some usage, some host => some ⟨usage, host⟩
  | _, _ => none

/-- `_is_times_state_empty` -/
def Times.isEmpty (times : Times) : Bool := times.system.isNone || times.cgroup.isNone

/-- What a reading finds of a parameter that is read only once. -/
def known (state : ModuleState) (answers : Answers) (key : String) : Option Int :=
  (Dict.value? state.cache key).join.or (answers.cgget key)

section Specs

variable {round : Rat → Nat → Rat} {answers : Answers} {state : ModuleState}

theorem counters_eq_some {counters : Counters} :
    answers.counters = some counters ↔ answers.cgget cpuUsage = some counters.usage ∧
      answers.cpuTimes = some counters.host := by
  unfold Answers.counters
  split
  case h_1 usage host read readHost =>
    rw [read, readHost, Option.some.injEq, Option.some.injEq, Option.some.injEq]
    constructor
    · rintro rfl
      exact ⟨rfl, rfl⟩
    · rintro ⟨rfl, rfl⟩
      rfl
  case h_2 unread =>
    refine iff_of_false (fun same => by cases same) ?_
    rintro ⟨read, readHost⟩
    exact unread _ _ read readHost

theorem getCpuNanos_read {usage : Int} (read : answers.cgget cpuUsage = some usage) :
    getCpuNanos answers state = .ok usage state := by
  rw [getCpuNanos, read]
  rfl

theorem getCpuNanosSystem_read {host : CpuTimes} (read : answers.cpuTimes = some host) :
    getCpuNanosSystem answers state = .ok (nanosSystem host) state := by
  rw [getCpuNanosSystem, read]
  rfl

theorem getCpuNanos_unread (unread : answers.cgget cpuUsage = none) :
    getCpuNanos answers state = .error (.cggetError cpuUsage) state := by
  rw [getCpuNanos, unread]
  rfl

theorem getCpuNanosSystem_unread (unread : answers.cpuTimes = none) :
    getCpuNanosSystem answers state = .error .psutilError state := by
  rw [getCpuNanosSystem, unread]
  rfl

theorem Times.stored_of_not_empty {times : Times} (stored : times.isEmpty = false) :
    ∃ system cgroup, times = ⟨some system, some cgroup⟩ := by
  obtain ⟨system, cgroup⟩ := times
  cases system with
  | none => cases stored
  | some system =>
    cases cgroup with
    | none => cases stored
    | some cgroup => exact ⟨system, cgroup, rfl⟩

theorem getCpuPercent_of_empty (empty : state.times.isEmpty = true) : getCpuPercent answers state =
    (do updateTimesState answers; return none : Program (Option Rat)) state := by
  obtain ⟨⟨system, cgroup⟩, cache⟩ := state
  cases system with
  | none => rfl
  | some system =>
    cases cgroup with
    | none => rfl
    | some cgroup => cases empty

theorem getCpuPercent_of_stored {system : Rat} {cgroup : Int} (stored : state.times = ⟨some system, some cgroup⟩) :
    getCpuPercent answers state = (do
      let currCpu ← getCpuNanos answers
      let currSys ← getCpuNanosSystem answers
      updateTimes currSys currCpu
      some <$> percentOf answers (currCpu - cgroup) (currSys - system) : Program (Option Rat)) state := by
  rw [getCpuPercent, bind_returned (rfl : (get : Program ModuleState) state = .ok state state), stored]
  rfl

theorem getCpuPercent_first {counters : Counters} (empty : state.times.isEmpty = true)
    (read : answers.counters = some counters) :
    getCpuPercent answers state = .ok none { state with times := counters.times } := by
  obtain ⟨usage, host⟩ := counters_eq_some.mp read
  have kept : updateTimesState answers state = .ok () { state with times := counters.times } := by
    rw [updateTimesState, bind_returned (getCpuNanosSystem_read host), bind_returned (getCpuNanos_read usage)]
    rfl
  rw [getCpuPercent_of_empty empty, bind_returned kept]
  rfl

/-- A later reading replaces the counters that were kept before it computes anything. -/
theorem getCpuPercent_later {counters : Counters} {system : Rat} {cgroup : Int}
    (stored : state.times = ⟨some system, some cgroup⟩) (read : answers.counters = some counters) :
    getCpuPercent answers state =
      (some <$> percentOf answers (counters.usage - cgroup) (nanosSystem counters.host - system))
        { state with times := counters.times } := by
  obtain ⟨usage, host⟩ := counters_eq_some.mp read
  rw [getCpuPercent_of_stored stored, bind_returned (getCpuNanos_read usage),
    bind_returned (getCpuNanosSystem_read host)]
  rfl

theorem getCpuPercent_unread (unread : answers.counters = none) :
    ∃ why, getCpuPercent answers state = .error why state := by
  have one : answers.cgget cpuUsage = none ∨ answers.cpuTimes = none := by
    cases usage : answers.cgget cpuUsage with
    | none => exact .inl rfl
    | some value =>
      cases host : answers.cpuTimes with
      | none => exact .inr rfl
      | some times =>
        have read : answers.counters = some ⟨value, times⟩ := counters_eq_some.mpr ⟨usage, host⟩
        rw [read] at unread
        cases unread
  cases empty : state.times.isEmpty with
  | true =>
    rw [getCpuPercent_of_empty empty]
    cases host : answers.cpuTimes with
    | none => exact ⟨_, bind_raised (bind_raised (getCpuNanosSystem_unread host))⟩
    | some times =>
      have usage := one.resolve_right (by rw [host]; exact Option.some_ne_none times)
      refine ⟨.cggetError cpuUsage, bind_raised ?_⟩
      rw [updateTimesState, bind_returned (getCpuNanosSystem_read host)]
      exact bind_raised (getCpuNanos_unread usage)
  | false =>
    obtain ⟨system, cgroup, stored⟩ := Times.stored_of_not_empty empty
    rw [getCpuPercent_of_stored stored]
    cases usage : answers.cgget cpuUsage with
    | none => exact ⟨_, bind_raised (getCpuNanos_unread usage)⟩
    | some value =>
      have host := one.resolve_left (by rw [usage]; exact Option.some_ne_none value)
      rw [bind_returned (getCpuNanos_read usage)]
      exact ⟨_, bind_raised (getCpuNanosSystem_unread host)⟩

end Specs

/-! Two readings after each other. -/

section Pairs

structure Counters.Precedes (earlier later : Counters) : Prop where
  usage : earlier.usage ≤ later.usage
  user : earlier.host.user ≤ later.host.user
  nice : earlier.host.nice ≤ later.host.nice
  system : earlier.host.system ≤ later.host.system
  idle : earlier.host.idle ≤ later.host.idle
  iowait : earlier.host.iowait ≤ later.host.iowait
  irq : earlier.host.irq ≤ later.host.irq
  softirq : earlier.host.softirq ≤ later.host.softirq
  steal : earlier.host.steal ≤ later.host.steal

def CpuTimes.busy (cput : CpuTimes) : Rat :=
  cput.user + cput.nice + cput.system + cput.irq + cput.softirq + cput.steal

/-- The container used the CPUs no longer than they were busy. -/
def UsedWhileBusy (earlier later : Counters) : Prop :=
  (later.usage : Rat) - earlier.usage ≤ (later.host.busy - earlier.host.busy) * 10 ^ 9

/-- It used them no longer than the modes lasted that the denominator counts. -/
def UsedWhileCounted (earlier later : Counters) : Prop :=
  (later.usage : Rat) - earlier.usage ≤ ((later.host.user - earlier.host.user) +
    (later.host.system - earlier.host.system) + (later.host.idle - earlier.host.idle)) * 10 ^ 9

/-- A percentage of up to one hundred for each CPU, and none only when the CPUs were not used. -/
structure InBounds (count : ℕ+) (earlier later : Counters) (percent : Rat) : Prop where
  nonneg : 0 ≤ percent
  bounded : percent ≤ 100 * (count : Nat)
  positive : earlier.usage < later.usage → 0 < percent

def PercentBounded (count : ℕ+) (earlier later : Counters) : Prop :=
  earlier.Precedes later → UsedWhileBusy earlier later → ∀ state answers, state.times = earlier.times →
    answers.counters = some later → answers.cpuCount = some count →
    ∃ percent after, getCpuPercent answers state = .ok (some percent) after ∧ InBounds count earlier later percent

variable {count : ℕ+} {earlier later : Counters}

def percentValue (count : ℕ+) (deltaCpu deltaSys : Rat) : Rat :=
  if deltaCpu > 0 ∧ deltaSys > 0 then deltaCpu / deltaSys * (count : Nat) * 100 else 0

theorem percentOf_counted {answers : Answers} (counted : answers.cpuCount = some count) (deltaCpu deltaSys : Rat) :
    percentOf answers deltaCpu deltaSys = pure (percentValue count deltaCpu deltaSys) := by
  unfold percentOf percentValue
  rw [counted]
  split <;> rfl

theorem getCpuPercent_counted {state : ModuleState} {answers : Answers} (stored : state.times = earlier.times)
    (read : answers.counters = some later) (counted : answers.cpuCount = some count) :
    getCpuPercent answers state = .ok (some (percentValue count (later.usage - earlier.usage)
      (nanosSystem later.host - nanosSystem earlier.host))) { state with times := later.times } := by
  rw [getCpuPercent_later stored read, percentOf_counted counted]
  rfl

section Value

variable {deltaCpu deltaSys : Rat}

theorem percentValue_of_le (count : ℕ+) (le : deltaCpu ≤ deltaSys) :
    0 ≤ percentValue count deltaCpu deltaSys ∧ percentValue count deltaCpu deltaSys ≤ 100 * (count : Nat) ∧
      (0 < deltaCpu → 0 < percentValue count deltaCpu deltaSys) := by
  have cpus : (0 : Rat) < (count : Nat) := Nat.cast_pos.mpr count.pos
  unfold percentValue
  split
  case isTrue both =>
    have quotient : deltaCpu / deltaSys ≤ 1 := (div_le_one both.2).mpr le
    have positive : 0 < deltaCpu / deltaSys * (count : Nat) := mul_pos (div_pos both.1 both.2) cpus
    have less := mul_le_mul_of_nonneg_right quotient cpus.le
    exact ⟨by linarith, by linarith, fun _ => by linarith⟩
  case isFalse neither =>
    exact ⟨le_rfl, by linarith, fun moved => absurd ⟨moved, moved.trans_le le⟩ neither⟩

theorem le_of_percentValue (counted : 0 ≤ deltaSys)
    (bounded : percentValue count deltaCpu deltaSys ≤ 100 * (count : Nat))
    (positive : 0 < deltaCpu → 0 < percentValue count deltaCpu deltaSys) : deltaCpu ≤ deltaSys := by
  by_contra beyond
  rw [not_le] at beyond
  have positive := positive (counted.trans_lt beyond)
  unfold percentValue at positive bounded
  split at positive
  case isFalse => exact absurd positive (lt_irrefl 0)
  case isTrue both =>
    rw [if_pos both] at bounded
    have quotient : 1 < deltaCpu / deltaSys := (one_lt_div both.2).mpr beyond
    have more := mul_lt_mul_of_pos_right quotient (Nat.cast_pos.mpr count.pos : (0 : Rat) < (count : Nat))
    linarith

end Value

theorem percentValue_inBounds_iff (count : ℕ+) (precedes : earlier.Precedes later) : InBounds count earlier later
    (percentValue count (later.usage - earlier.usage) (nanosSystem later.host - nanosSystem earlier.host)) ↔
      UsedWhileCounted earlier later := by
  have host : 0 ≤ nanosSystem later.host - nanosSystem earlier.host := by
    have user := precedes.user
    have system := precedes.system
    have idle := precedes.idle
    unfold nanosSystem
    linarith
  have counted : UsedWhileCounted earlier later ↔
      (later.usage : Rat) - earlier.usage ≤ nanosSystem later.host - nanosSystem earlier.host := by
    unfold UsedWhileCounted nanosSystem
    constructor <;> intro le <;> linarith
  have used : earlier.usage < later.usage ↔ 0 < (later.usage : Rat) - earlier.usage := by
    rw [sub_pos, Int.cast_lt]
  rw [counted]
  constructor
  · intro bounds
    exact le_of_percentValue host bounds.bounded fun moved => bounds.positive (used.mpr moved)
  · intro within
    obtain ⟨nonneg, bounded, positive⟩ := percentValue_of_le count within
    exact ⟨nonneg, bounded, fun moved => positive (used.mp moved)⟩

def Counters.answers (counters : Counters) (count : ℕ+) : Answers where
  time := 0
  cgget := fun key => if key = cpuUsage then some counters.usage else none
  cpuTimes := some counters.host
  cpuCount := some count
  memTotal := none

theorem percentBounded_iff (count : ℕ+) (earlier later : Counters) : PercentBounded count earlier later ↔
    (earlier.Precedes later → UsedWhileBusy earlier later → UsedWhileCounted earlier later) := by
  refine forall_congr' fun precedes => forall_congr' fun _ => ?_
  rw [← percentValue_inBounds_iff count precedes]
  constructor
  · intro bounded
    obtain ⟨percent, after, returned, bounds⟩ :=
      bounded ⟨earlier.times, []⟩ (later.answers count) rfl rfl rfl
    rw [getCpuPercent_counted rfl rfl rfl] at returned
    cases returned
    exact bounds
  · intro bounds state answers stored read counted
    exact ⟨_, _, getCpuPercent_counted stored read counted, bounds⟩

end Pairs

/-! Readings over time. -/

/-- The first reading of `monitor_system`, or one of its rounds. -/
inductive MeterEvent where
  | start (answers : Answers)
  | round (answers : Answers)

def MeterEvent.answers : MeterEvent → Answers
  | start answers | round answers => answers

/-- The module, with the counters that it kept first, and the intervals between the counters that
the successful readings compared. -/
structure Meter where
  state : ModuleState
  first : Times
  measured : List (Window Times)

namespace Meter

def initial : Meter where
  state := .initial
  first := ModuleState.initial.times
  measured := []

/-- One reading. When the start raises, the monitor ends, and another one may start. -/
def step (round : Rat → Nat → Rat) : Transition Meter MeterEvent := fun meter event =>
  let cpu := attempt (getCpu round event.answers) meter.state
  some {
    state := match event with
      | .start _ => cpu.2
      | .round answers => (readSystem round answers meter.state).2
    first := if meter.state.times.isEmpty then cpu.2.times else meter.first
    measured := match cpu.1 with
      | some (some _) => meter.measured ++ [⟨meter.state.times, cpu.2.times⟩]
      | _ => meter.measured }

def usage (times : Times) : Int := times.cgroup.getD 0

/-- The intervals of the successful readings follow each other, and their usage is all that there
was between the first counters and the last ones. -/
structure Accounted (meter : Meter) : Prop where
  contiguous : meter.measured.IsChain fun earlier later => earlier.closes = later.opens
  complete : (meter.measured.map fun interval => usage interval.closes - usage interval.opens).sum =
    usage meter.state.times - usage meter.first

/-- A reading that replaces the counters goes on to its end: the number of CPUs is known when it is
needed, and so are the period and the quota, which allow the division. -/
def Completes (meter : Meter) (event : MeterEvent) : Prop :=
  ∀ system cgroup counters, meter.state.times = ⟨some system, some cgroup⟩ →
    event.answers.counters = some counters →
    (cgroup < counters.usage → system < nanosSystem counters.host → event.answers.cpuCount.isSome) ∧
    ∃ period quota, known meter.state event.answers cpuPeriod = some period ∧
      known meter.state event.answers cpuQuota = some quota ∧ (0 < quota → period ≠ 0)

variable {round : Rat → Nat → Rat} {answers : Answers} {state : ModuleState}

def SameTimes (before after : ModuleState) : Prop := after.times = before.times

theorem SameTimes.trans {first second third : ModuleState} (left : SameTimes first second)
    (right : SameTimes second third) : SameTimes first third := Eq.trans right left

theorem keeps_bind {α β : Type} {program : Program α} {rest : α → Program β}
    (first : Keeps SameTimes program fun _ => True) (second : ∀ value, Keeps SameTimes (rest value) fun _ => True) :
    Keeps SameTimes (program >>= rest) fun _ => True :=
  first.bind (fun value _ => second value) (fun _ _ same => same) fun _ _ _ => SameTimes.trans

theorem keeps_pure {α : Type} (value : α) : Keeps SameTimes (pure value : Program α) fun _ => True :=
  fun _ => ⟨rfl, trivial⟩

theorem keeps_throw {α : Type} (why : ReadingError) : Keeps SameTimes (throw why : Program α) fun _ => True :=
  fun _ => rfl

theorem keeps_get : Keeps SameTimes (get : Program ModuleState) fun _ => True := fun _ => ⟨rfl, trivial⟩

theorem keeps_cache (change : Dict String (Option Int) → Dict String (Option Int)) :
    Keeps SameTimes (modify fun state => { state with cache := change state.cache } : Program Unit) fun _ => True :=
  fun _ => ⟨rfl, trivial⟩

theorem getMemory_keeps : Keeps SameTimes (getMemory round answers) fun _ => True := by
  have limit : Keeps SameTimes (cggetMemLimit answers) fun _ => True := by
    refine keeps_bind keeps_get fun state => ?_
    split
    · exact keeps_pure _
    · exact keeps_bind (keeps_cache fun cache => Dict.assign cache memLimit (answers.cgget memLimit)) fun _ =>
        keeps_pure _
  have bytes : Keeps SameTimes (getMemoryLimit answers) fun _ => True := by
    refine keeps_bind limit fun limitBytes => ?_
    cases answers.memTotal with
    | none => exact keeps_throw _
    | some total =>
      cases limitBytes with
      | none => exact keeps_pure _
      | some limit => exact keeps_pure _
  unfold getMemory
  split
  · exact keeps_throw _
  · refine keeps_bind bytes fun limit => ?_
    dsimp only
    split
    · exact keeps_throw _
    · exact keeps_pure _

theorem attempt_sameTimes {α : Type} {program : Program α} (keeps : Keeps SameTimes program fun _ => True)
    (state : ModuleState) : (attempt program state).2.times = state.times := by
  have kept := keeps state
  unfold attempt
  cases ran : program.run state with
  | ok value after =>
    rw [show program state = .ok value after from ran] at kept
    exact kept.1
  | error why after =>
    rw [show program state = .error why after from ran] at kept
    exact kept

theorem cggetCached_known {key : String} {value : Int} (found : known state answers key = some value) :
    ∃ after, cggetCached answers key state = .ok value after ∧ after.times = state.times ∧
      ∀ other, other ≠ key → known after answers other = known state answers other := by
  rw [cggetCached, bind_returned (rfl : (get : Program ModuleState) state = .ok state state)]
  unfold known at found
  cases cached : (Dict.value? state.cache key).join with
  | some old =>
    rw [cached] at found
    cases found
    exact ⟨state, rfl, rfl, fun _ _ => rfl⟩
  | none =>
    rw [cached, Option.none_or] at found
    rw [found]
    refine ⟨_, rfl, rfl, fun other differ => ?_⟩
    unfold known
    rw [Dict.value?_assign_of_ne differ]

theorem getCpuConstraint_known {period quota : Int} (foundPeriod : known state answers cpuPeriod = some period)
    (foundQuota : known state answers cpuQuota = some quota) (divides : 0 < quota → period ≠ 0) :
    ∃ constraint after, getCpuConstraint answers state = .ok constraint after ∧ after.times = state.times := by
  obtain ⟨middle, readPeriod, same, others⟩ := cggetCached_known foundPeriod
  rw [← others cpuQuota (by decide)] at foundQuota
  obtain ⟨after, readQuota, sameLater, -⟩ := cggetCached_known foundQuota
  rw [getCpuConstraint, cggetCpuPeriod, cggetCpuQuota, bind_returned readPeriod, bind_returned readQuota]
  by_cases positive : quota > 0
  · rw [if_pos positive, if_neg (divides positive)]
    exact ⟨_, after, rfl, sameLater.trans same⟩
  · rw [if_neg positive]
    exact ⟨_, after, rfl, sameLater.trans same⟩

theorem getCpu_unread (round : Rat → Nat → Rat) (state : ModuleState) (unread : answers.counters = none) :
    attempt (getCpu round answers) state = (none, state) := by
  obtain ⟨why, raised⟩ : ∃ why, getCpuPercent answers state = .error why state := getCpuPercent_unread unread
  unfold attempt
  rw [show (getCpu round answers).run state = .error why state from bind_raised raised]

theorem getCpu_first (round : Rat → Nat → Rat) {counters : Counters} (empty : state.times.isEmpty = true)
    (read : answers.counters = some counters) :
    attempt (getCpu round answers) state = (some none, { state with times := counters.times }) := by
  have returned : (getCpu round answers).run state = .ok none { state with times := counters.times } := by
    rw [EStateM.run, getCpu, bind_returned (getCpuPercent_first empty read)]
    rfl
  unfold attempt
  rw [returned]

theorem getCpu_completes (round : Rat → Nat → Rat) {counters : Counters} {meter : Meter} {event : MeterEvent}
    (stored : meter.state.times.isEmpty = false) (read : event.answers.counters = some counters)
    (completes : Completes meter event) : ∃ data after,
      attempt (getCpu round event.answers) meter.state = (some (some data), after) ∧ after.times = counters.times := by
  obtain ⟨system, cgroup, stored⟩ := Times.stored_of_not_empty stored
  obtain ⟨cpus, period, quota, foundPeriod, foundQuota, divides⟩ := completes system cgroup counters stored read
  obtain ⟨percent, computed⟩ : ∃ percent, percentOf event.answers (counters.usage - cgroup)
      (nanosSystem counters.host - system) = pure percent := by
    unfold percentOf
    split
    case isTrue moved =>
      obtain ⟨count, counted⟩ := Option.isSome_iff_exists.mp
        (cpus (Int.cast_lt.mp (sub_pos.mp moved.1)) (sub_pos.mp moved.2))
      rw [counted]
      exact ⟨_, rfl⟩
    case isFalse => exact ⟨0, rfl⟩
  have returned : getCpuPercent event.answers meter.state =
      .ok (some percent) { meter.state with times := counters.times } := by
    rw [getCpuPercent_later stored read, computed]
    rfl
  -- the parameters are looked up after the counters have been replaced
  have knownLater : ∀ key, known { meter.state with times := counters.times } event.answers key =
      known meter.state event.answers key := fun _ => rfl
  rw [← knownLater] at foundPeriod foundQuota
  obtain ⟨constraint, after, constrained, same⟩ := getCpuConstraint_known foundPeriod foundQuota divides
  rw [attempt, EStateM.run, getCpu, bind_returned returned]
  dsimp only
  rw [bind_returned constrained]
  exact ⟨_, after, rfl, same⟩

structure Recorded (meter : Meter) : Prop where
  covers : Window.Covers meter.first meter.measured meter.state.times
  none : meter.state.times.isEmpty = true → meter.measured = []

theorem initial_recorded : Recorded initial := ⟨rfl, fun _ => rfl⟩

/-- What a reading leaves in the meter depends on how its attempt to measure the CPU ended. -/
theorem step_attempted {meter next : Meter} {event : MeterEvent} {data : Option (Option CpuData)} {after : ModuleState}
    (attempted : attempt (getCpu round event.answers) meter.state = (data, after))
    (stepped : step round meter event = some next) :
    next.state.times = after.times ∧
    next.first = (if meter.state.times.isEmpty then after.times else meter.first) ∧
    next.measured = meter.measured ++ (data.join.map fun _ => ⟨meter.state.times, after.times⟩).toList := by
  have times : next.state.times = (attempt (getCpu round event.answers) meter.state).2.times := by
    cases stepped
    cases event with
    | start answers => rfl
    | round answers => exact attempt_sameTimes getMemory_keeps _
  rw [attempted] at times
  cases stepped
  refine ⟨times, ?_⟩
  rw [attempted]
  refine ⟨rfl, ?_⟩
  match data with
  | none | some none => exact (List.append_nil _).symm
  | some (some _) => rfl

theorem step_recorded {meter next : Meter} {event : MeterEvent} (recorded : Recorded meter)
    (completes : Completes meter event) (stepped : step round meter event = some next) : Recorded next := by
  cases read : event.answers.counters with
  | none =>
    obtain ⟨times, first, measured⟩ := step_attempted (getCpu_unread round meter.state read) stepped
    have same : next.measured = meter.measured := measured.trans (List.append_nil _)
    refine ⟨?_, fun empty => same.trans (recorded.none (times ▸ empty))⟩
    rw [first, same, times]
    split
    case isTrue empty =>
      rw [recorded.none empty]
      rfl
    case isFalse => exact recorded.covers
  | some counters =>
    cases empty : meter.state.times.isEmpty with
    | true =>
      obtain ⟨times, first, measured⟩ := step_attempted (getCpu_first round empty read) stepped
      rw [recorded.none empty] at measured
      refine ⟨?_, fun _ => measured⟩
      rw [first, if_pos empty, measured, times]
      rfl
    | false =>
      obtain ⟨data, after, completed, same⟩ := getCpu_completes round empty read completes
      obtain ⟨times, first, measured⟩ := step_attempted completed stepped
      rw [if_neg (by rw [empty]; exact Bool.false_ne_true)] at first
      refine ⟨?_, fun none => ?_⟩
      · rw [first, measured, times]
        exact Window.Covers.concat recorded.covers
      · rw [times, same] at none
        cases none

theorem Recorded.accounted {meter : Meter} (recorded : Recorded meter) : Accounted meter where
  contiguous := recorded.covers.contiguous
  complete := recorded.covers.sum_eq usage

end Meter

/-- What a reading returns is in bounds when the modes that are counted lasted long enough. The
readings measure all usage exactly once when each of them goes on to its end. -/
theorem usage_measured (round : Rat → Nat → Rat) :
    (∀ count earlier later, PercentBounded count earlier later ↔
      (earlier.Precedes later → UsedWhileBusy earlier later → UsedWhileCounted earlier later)) ∧
    ∀ events meter, Transition.run (Meter.step round) Meter.initial events = some meter →
      Transition.Along (Meter.step round) Meter.Completes Meter.initial events → meter.Accounted := by
  refine ⟨percentBounded_iff, fun events meter ran along => ?_⟩
  have recorded : meter.Recorded :=
    Transition.run_preserves (fun _ _ _ recorded completes stepped => Meter.step_recorded recorded completes stepped)
      Meter.initial_recorded ran along
  exact recorded.accounted

/-! A second of work at low priority, on one CPU, and a quota that is first not found. -/

def bootCounters : Counters := ⟨0, ⟨0, 0, 0, 0, 0, 0, 0, 0⟩⟩

def niceCounters : Counters := ⟨10 ^ 9, ⟨0, 1, 0, 1 / 2, 0, 0, 0, 0⟩⟩

def laterCounters : Counters := ⟨10 ^ 9, ⟨1, 1, 0, 1, 0, 0, 0, 0⟩⟩

def Answers.unlimited (answers : Answers) : Answers :=
  { answers with cgget := fun key => (answers.cgget key).or (if key = cpuPeriod then some 100000 else some (-1)) }

def unlimitedSecond : List MeterEvent :=
  [.start (bootCounters.answers 1).unlimited, .round (laterCounters.answers 1).unlimited]

theorem unlimited_accounted : ∃ meter, Transition.run (Meter.step fun x _ => x) Meter.initial unlimitedSecond =
    some meter ∧ meter.Accounted := by
  obtain ⟨meter, ran⟩ : ∃ meter, Transition.run (Meter.step fun x _ => x) Meter.initial unlimitedSecond = some meter :=
    ⟨_, rfl⟩
  have along : Transition.Along (Meter.step fun x _ => x) Meter.Completes Meter.initial unlimitedSecond := by
    refine ⟨?_, fun next started => ⟨?_, fun _ _ => trivial⟩⟩
    · intro system cgroup counters kept
      cases kept
    · cases started
      intro system cgroup counters _ _
      exact ⟨fun _ _ => rfl, 100000, -1, rfl, rfl, fun positive => absurd positive (by decide)⟩
  exact ⟨meter, ran, (usage_measured _).2 _ _ ran along⟩

/-- The percentage may exceed its bound, and a reading that fails after it has replaced the counters
loses what was used before it. -/
theorem nice_work_not_measured :
    (¬ ∀ count earlier later, PercentBounded count earlier later) ∧
    ¬ ∀ round events meter, Transition.run (Meter.step round) Meter.initial events = some meter → meter.Accounted := by
  constructor
  · intro all
    have covered := (percentBounded_iff 1 bootCounters niceCounters).mp (all _ _ _) (by constructor <;> decide +kernel)
      (by unfold UsedWhileBusy; decide +kernel)
    revert covered
    unfold UsedWhileCounted
    decide +kernel
  · intro all
    have accounted := all (fun x _ => x)
      [.start (bootCounters.answers 1).unlimited, .round (niceCounters.answers 1),
        .round (laterCounters.answers 1).unlimited] _ rfl
    exact absurd accounted.complete (by decide +kernel)

end Wotemu.SystemMonitor
