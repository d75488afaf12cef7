import Mathlib.Algebra.Order.Ring.Rat
import Wotemu.Foundation.Agents

/-! The CPU benchmark that the tasks of one node share through a Redis key.

A task that finds no value under the key locks it and runs the benchmark. The
result of the conditional write is not looked at, so a task that lost the race
after its first read runs the benchmark as well.
-/

set_option autoImplicit false

namespace Wotemu

open Wotemu.Foundation

namespace CpuBenchmark

/-- `numpy.poly1d`: coefficients without leading zeros. -/
def trimZeros (coeffs : List Rat) : List Rat :=
  match coeffs.dropWhile (· = 0) with
  | [] => [0]
  | trimmed => trimmed

structure Poly1d where
  coeffs : List Rat
  trimmed : trimZeros coeffs = coeffs

theorem trimZeros_trimZeros (coeffs : List Rat) : trimZeros (trimZeros coeffs) = trimZeros coeffs := by
  have head := List.head?_dropWhile_not (fun value : Rat => decide (value = 0)) coeffs
  unfold trimZeros
  cases rest : coeffs.dropWhile (· = 0) with
  | nil => simp
  | cons first others =>
    have nonzero : first ≠ 0 := by simpa [rest] using head
    simp [nonzero]

namespace Poly1d

def ofCoeffs (coeffs : List Rat) : Poly1d := ⟨trimZeros coeffs, trimZeros_trimZeros coeffs⟩

@[simp] theorem ofCoeffs_coeffs (poly : Poly1d) : ofCoeffs poly.coeffs = poly := by
  cases poly with
  | mk coeffs trimmed => simp [ofCoeffs, trimmed]

/-- The truth value of a polynomial is that of its length, which is the order. -/
def truthy (poly : Poly1d) : Bool := poly.coeffs.length - 1 ≠ 0

end Poly1d

/-- The JSON values under the key: the marker of the lock, or coefficients. -/
inductive KeyValue where
  | null
  | coeffs (values : List Rat)
  deriving DecidableEq

/-- Where a task is in `_get_cpu_poly`. The stages after the first read name the command
that comes next. -/
inductive Stage where
  | connecting
  | locking
  | building
  | publishing (poly : Poly1d)
  | built (poly : Poly1d)
  | polling
  | sleeping
  | received (poly : Poly1d)
  | timedOut

abbrev State := Agents Nat (Option KeyValue) Stage

inductive Action where
  | shouldBuildPoly
  | lockPoly
  | localCpuPoly (poly : Poly1d)
  | setRedisPoly
  | getRedisPoly
  | wake (expired : Bool)

/-- `_get_redis_poly`: neither a missing value nor the lock marker is a polynomial. -/
def readPoly : Option KeyValue → Option Poly1d
  | some (.coeffs values) => if values.isEmpty then none else some (Poly1d.ofCoeffs values)
  | _ => none

/-- `_get_cpu_poly`, one command or local action at a time. -/
def act : Action → Option KeyValue → Stage → Option (Option KeyValue × Stage)
  | .shouldBuildPoly, key, .connecting => some (key, if key = none then .locking else .polling)
  -- SET with SET_IF_NOT_EXIST keeps a value that is there, and its reply is dropped
  | .lockPoly, key, .locking => some (some (key.getD .null), .building)
  | .localCpuPoly poly, key, .building => some (key, .publishing poly)
  | .setRedisPoly, _, .publishing poly => some (some (.coeffs poly.coeffs), .built poly)
  | .getRedisPoly, key, .polling => match readPoly key with
    | some poly => some (key, if poly.truthy then .received poly else .sleeping)
    | none => some (key, .sleeping)
  | .wake expired, key, .sleeping => some (key, if expired then .timedOut else .polling)
  | _, _, _ => none

def step : Transition State (Nat × Action) := Agents.step act

def initial : State := ⟨none, fun _ => .connecting⟩

/-- The stages of a task that went on from `_lock_poly`. -/
def Stage.holds : Stage → Bool
  | .building | .publishing _ | .built _ => true
  | _ => false

def Stage.benchmarked : Stage → Bool
  | .publishing _ | .built _ => true
  | _ => false

theorem Stage.holds_of_benchmarked {stage : Stage} (benchmarked : stage.benchmarked = true) : stage.holds = true := by
  cases stage <;> simp_all [Stage.benchmarked, Stage.holds]

/-- Some task is done with the benchmark and has published this polynomial. -/
def Published (state : State) (poly : Poly1d) : Prop := ∃ builder, state.stage builder = .built poly

/-- At most one task has run the benchmark, and whatever the others received is what it published. -/
structure SingleBenchmark (state : State) : Prop where
  one : state.AtMostOne fun stage => stage.benchmarked = true
  received : ∀ task poly, state.stage task = .received poly → Published state poly

/-- A task that is about to lock finds no value under the key. -/
def Uncontended (state : State) : Nat × Action → Prop
  | (_, .lockPoly) => state.shared = none
  | _ => True

instance (state : State) : DecidablePred (Uncontended state)
  | (_, .lockPoly) => inferInstanceAs (Decidable (state.shared = none))
  | (_, .shouldBuildPoly) | (_, .localCpuPoly _) | (_, .setRedisPoly) | (_, .getRedisPoly) | (_, .wake _) =>
    .isTrue trivial

/-- The lock works while nobody takes it twice: its holder is alone, and a polynomial under
the key or with a task is the published one. -/
structure Locked (state : State) : Prop where
  guarded : state.Guarded (fun stage => stage.holds = true) (fun key => key ≠ none)
  kept : ∀ values, state.shared = some (.coeffs values) → ∃ poly, poly.coeffs = values ∧ Published state poly
  received : ∀ task poly, state.stage task = .received poly → Published state poly

theorem initial_locked : Locked initial where
  guarded := ⟨fun _ _ held => (by cases held), fun _ held => (by cases held)⟩
  kept := fun _ same => (by cases same)
  received := fun _ _ same => (by cases same)

theorem Published.advance {state : State} {poly : Poly1d} {task : Nat} {action : Action}
    {result : Option KeyValue × Stage} (published : Published state poly)
    (acted : act action state.shared (state.stage task) = some result) :
    Published (state.advance task result.1 result.2) poly := by
  refine Agents.exists_advance (fun stage => stage = Stage.built poly) published ?_
  intro same
  rw [same] at acted
  cases action <;> cases acted

theorem Locked.advance {state : State} {task : Nat} {action : Action} {stage : Stage} (locked : Locked state)
    (acted : act action state.shared (state.stage task) = some (state.shared, stage))
    (within : stage.holds = true → (state.stage task).holds = true)
    (received : ∀ poly, stage = .received poly → Published state poly) :
    Locked (state.advance task state.shared stage) where
  guarded := locked.guarded.proceed within id
  kept := by
    intro values same
    obtain ⟨poly, coeffs, published⟩ := locked.kept values same
    exact ⟨poly, coeffs, published.advance acted⟩
  received := by
    intro other poly same
    rcases Agents.before_advance (fun stage => stage = Stage.received poly) same with ⟨-, new⟩ | ⟨-, old⟩
    · exact (received poly new).advance acted
    · exact (locked.received other poly old).advance acted

theorem Published.holds {state : State} {poly : Poly1d} (published : Published state poly) :
    ∃ builder, state.stage builder = .built poly ∧ (state.stage builder).holds = true := by
  obtain ⟨builder, same⟩ := published
  exact ⟨builder, same, by rw [same]; rfl⟩

theorem Locked.lock {state : State} (task : Nat) (locked : Locked state) (free : state.shared = none) :
    Locked (state.advance task (some .null) .building) where
  guarded := locked.guarded.acquire (not_not.mpr free) (by simp)
  kept := fun values same => (by cases same)
  received := by
    intro other poly same
    rcases Agents.before_advance (fun stage => stage = Stage.received poly) same with ⟨-, new⟩ | ⟨-, old⟩
    · cases new
    · obtain ⟨builder, -, holds⟩ := (locked.received other poly old).holds
    -- a builder would still hold the lock
      exact absurd holds (locked.guarded.free (not_not.mpr free) builder)

/-- The holder publishes; nobody has received anything yet, for that would be its own. -/
theorem Locked.publish {state : State} {task : Nat} {poly : Poly1d} (locked : Locked state)
    (holder : state.stage task = .publishing poly) :
    Locked (state.advance task (some (.coeffs poly.coeffs)) (.built poly)) where
  guarded := locked.guarded.proceed (fun _ => by rw [holder]; rfl) (by simp)
  kept := by
    intro values same
    cases same
    exact ⟨poly, rfl, task, by simp⟩
  received := by
    intro other old same
    rcases Agents.before_advance (fun stage => stage = Stage.received old) same with ⟨-, new⟩ | ⟨-, before⟩
    · cases new
    · obtain ⟨builder, built, holds⟩ := (locked.received other old before).holds
    -- what another task received was published by a holder, and that is the acting task
      have same : builder = task := locked.guarded.alone builder task holds (by rw [holder]; rfl)
      rw [same, holder] at built
      cases built

theorem Locked.readPoly {state : State} {poly : Poly1d} (locked : Locked state)
    (read : readPoly state.shared = some poly) : Published state poly := by
  match key : state.shared with
  | none | some .null =>
    rw [key] at read
    cases read
  | some (.coeffs values) =>
    obtain ⟨source, coeffs, published⟩ := locked.kept values key
    rw [key, ← coeffs] at read
    simp only [CpuBenchmark.readPoly, Poly1d.ofCoeffs_coeffs, Option.ite_none_left_eq_some] at read
    obtain ⟨-, same⟩ := read
    cases same
    exact published

theorem step_locked (state : State) (event : Nat × Action) (next : State) (locked : Locked state)
    (free : Uncontended state event) (stepped : step state event = some next) : Locked next := by
  obtain ⟨task, action⟩ := event
  obtain ⟨result, acted, rfl⟩ := Agents.step_eq_some.mp stepped
  dsimp only at acted ⊢
  have moved := acted
  cases before : state.stage task with
  | connecting =>
    rw [before] at acted
    cases action <;> cases acted
    refine locked.advance moved ?_ ?_ <;> split <;> simp [Stage.holds]
  | locking =>
    rw [before] at acted
    cases action <;> cases acted
    -- the key is still free when it is locked
    have missing : state.shared = none := free
    rw [missing]
    exact locked.lock task missing
  | building =>
    rw [before] at acted
    cases action <;> cases acted
    refine locked.advance moved ?_ ?_
    · simp [before, Stage.holds]
    · intro poly same
      cases same
  | publishing poly =>
    rw [before] at acted
    cases action <;> cases acted
    exact locked.publish before
  | polling =>
    rw [before] at acted
    cases action with
    | getRedisPoly =>
      simp only [act] at acted
      split at acted
      · rename_i poly read
        cases acted
        -- a task that has read a polynomial does not hold the lock
        refine locked.advance moved ?_ ?_
        · split <;> simp [Stage.holds]
        · intro other same
          split at same
          · cases same
            exact locked.readPoly read
          · cases same
      · cases acted
        exact locked.advance moved (by simp [Stage.holds]) (by simp)
    | _ => cases acted
  | sleeping =>
    rw [before] at acted
    cases action <;> cases acted
    refine locked.advance moved ?_ ?_ <;> split <;> simp [Stage.holds]
  | built poly | received poly =>
    rw [before] at acted
    cases action <;> cases acted
  | timedOut =>
    rw [before] at acted
    cases action <;> cases acted

theorem Locked.singleBenchmark {state : State} (locked : Locked state) : SingleBenchmark state where
  one := fun first second left right =>
    locked.guarded.alone first second (Stage.holds_of_benchmarked left) (Stage.holds_of_benchmarked right)
  received := locked.received

/-- While nobody takes the lock a second time, one task builds the polynomial for all. -/
theorem uncontended_singleBenchmark (events : List (Nat × Action)) (state : State)
    (ran : Transition.run step initial events = some state)
    (uncontended : Transition.Along step Uncontended initial events) : SingleBenchmark state :=
  (Transition.run_preserves step_locked initial_locked ran uncontended).singleBenchmark

def measured : Poly1d := Poly1d.ofCoeffs [-2, 30]

def waiting : List (Nat × Action) :=
  [(0, .shouldBuildPoly), (0, .lockPoly), (1, .shouldBuildPoly), (1, .getRedisPoly), (0, .localCpuPoly measured),
    (0, .setRedisPoly), (1, .wake false), (1, .getRedisPoly)]

theorem waiting_singleBenchmark : ∃ state, Transition.run step initial waiting = some state ∧
    state.stage 1 = .received measured ∧ SingleBenchmark state := by
  obtain ⟨state, ran, received⟩ : ∃ state, Transition.run step initial waiting = some state ∧
      state.stage 1 = .received measured := ⟨_, rfl, rfl⟩
  exact ⟨state, ran, received, uncontended_singleBenchmark waiting state ran (by decide)⟩

def racing : List (Nat × Action) :=
  [(0, .shouldBuildPoly), (1, .shouldBuildPoly), (0, .lockPoly), (1, .lockPoly), (0, .localCpuPoly measured),
    (1, .localCpuPoly measured)]

theorem racing_benchmarks_twice : ¬ ∀ events state,
    Transition.run step initial events = some state → SingleBenchmark state := by
  intro claimed
  have both := (claimed racing _ rfl).one 0 1 rfl rfl
  cases both

end CpuBenchmark

end Wotemu
