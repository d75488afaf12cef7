import Mathlib.Data.List.Basic
import Wotemu.Foundation.Agents

/-! A lock whose waiters are woken one at a time, in the order of their requests.

A release frees the lock and wakes the first waiter, which takes the lock when
it goes on. Between the two the lock is free, but whoever asks for it then
joins the queue.
-/

set_option autoImplicit false

namespace Wotemu.Foundation

structure FairLock (ι : Type) where
  locked : Bool
  waiters : List (ι × Bool)
  deriving DecidableEq

inductive LockStage where
  | away
  | waiting
  | holding
  deriving DecidableEq

inductive LockAction where
  | acquire
  | resume
  | release
  deriving DecidableEq

namespace FairLock

variable {ι : Type}

def free : FairLock ι := ⟨false, []⟩

def available (lock : FairLock ι) : Bool := !lock.locked && lock.waiters.isEmpty

def acquire (lock : FairLock ι) (agent : ι) : FairLock ι :=
  if lock.available then { lock with locked := true }
  else { lock with waiters := lock.waiters ++ [(agent, false)] }

def wakeUpFirst : List (ι × Bool) → List (ι × Bool)
  | [] => []
  | (agent, _) :: rest => (agent, true) :: rest

def release (lock : FairLock ι) : Option (FairLock ι) :=
  if lock.locked then some ⟨false, wakeUpFirst lock.waiters⟩ else none

variable [DecidableEq ι]

def resume (lock : FairLock ι) (agent : ι) : Option (FairLock ι) :=
  if (agent, true) ∈ lock.waiters then some ⟨true, lock.waiters.erase (agent, true)⟩ else none

def step : Transition (Agents ι (FairLock ι) LockStage) (ι × LockAction) := fun state event =>
  match event.2, state.stage event.1 with
  | .acquire, .away => some (state.advance event.1 (state.shared.acquire event.1)
      (if state.shared.available then .holding else .waiting))
  | .resume, .waiting => (state.shared.resume event.1).map fun lock => state.advance event.1 lock .holding
  | .release, .holding => state.shared.release.map fun lock => state.advance event.1 lock .away
  | _, _ => none

/-- Only the first of the waiters may have been woken, and it has been when the lock is free. -/
def flagged (locked : Bool) : List ι → List (ι × Bool)
  | [] => []
  | agent :: rest => (agent, !locked) :: rest.map fun other => (other, false)

omit [DecidableEq ι] in
theorem flagged_true (agents : List ι) : flagged true agents = agents.map fun agent => (agent, false) := by
  cases agents <;> rfl

omit [DecidableEq ι] in
theorem map_flagged (locked : Bool) (agents : List ι) : (flagged locked agents).map Prod.fst = agents := by
  cases agents <;> simp [flagged, Function.comp_def]

structure Orderly (state : Agents ι (FairLock ι) LockStage) (line : List ι) : Prop where
  guarded : state.Guarded (fun stage => stage = .holding) (fun lock => lock.locked = true)
  held : state.shared.locked = true → ∃ agent, state.stage agent = .holding
  waiters : state.shared.waiters = flagged state.shared.locked line
  listed : ∀ agent, agent ∈ line ↔ state.stage agent = .waiting
  distinct : line.Nodup

variable {state next : Agents ι (FairLock ι) LockStage} {line : List ι} {agent : ι}

omit [DecidableEq ι] in
theorem orderly_free : Orderly (⟨free, fun _ => .away⟩ : Agents ι (FairLock ι) LockStage) [] := by
  constructor <;> simp [free, flagged]
  constructor <;> simp [Agents.AtMostOne]

theorem Orderly.resume_iff (orderly : Orderly state line) {lock : FairLock ι} :
    state.shared.resume agent = some lock ↔
      state.shared.locked = false ∧ ∃ rest, line = agent :: rest ∧ lock = ⟨true, flagged true rest⟩ := by
  unfold resume
  rw [orderly.waiters]
  cases line with
  | nil => simp [flagged]
  | cons first rest =>
    cases locked : state.shared.locked with
    | true => simp [flagged]
    | false =>
      by_cases same : agent = first
      · subst same
        simp only [flagged_true]
        simp [flagged, eq_comm]
      · have other : ¬ first = agent := fun equal => same equal.symm
        simp [flagged, same, other]

theorem Orderly.acquire (orderly : Orderly state line) (away : state.stage agent = .away)
    (stepped : step state (agent, .acquire) = some next) :
    Orderly next (if state.shared.available then line else line ++ [agent]) := by
  simp only [step, away, Option.some.injEq] at stepped
  subst stepped
  have outside : agent ∉ line := by simp [orderly.listed, away]
  cases available : state.shared.available with
  | true =>
    obtain ⟨unlocked, none⟩ : state.shared.locked = false ∧ state.shared.waiters = [] := by
      simpa [FairLock.available] using available
    have empty : line = [] := by
      rw [← map_flagged state.shared.locked line, ← orderly.waiters, none]
      rfl
    subst empty
    simp only [FairLock.acquire, available, if_true]
    constructor
    case guarded => exact orderly.guarded.acquire (by simp [unlocked]) rfl
    case held => exact fun _ => ⟨agent, by simp⟩
    case waiters => simpa [flagged] using none
    case distinct => exact orderly.distinct
    case listed =>
      intro other
      by_cases same : other = agent
      · simp [same]
      · rw [Agents.advance_stage_of_ne _ _ _ _ same]
        exact orderly.listed other
  | false =>
    simp only [FairLock.acquire, available, Bool.false_eq_true, if_false]
    constructor
    case guarded => exact orderly.guarded.proceed (fun holds => by cases holds) id
    case held =>
      intro locked
      exact Agents.exists_advance (fun stage : LockStage => stage = .holding) (orderly.held locked) (by simp [away])
    case waiters =>
      have before := orderly.waiters
      cases line with
      | nil =>
        have locked : state.shared.locked = true := by
          simpa [FairLock.available, before, flagged] using available
        simp [before, flagged, locked]
      | cons first rest => simp [before, flagged]
    case distinct =>
      refine List.nodup_append.mpr ⟨orderly.distinct, by simp, ?_⟩
      intro other listed last isLast
      rw [List.mem_singleton.mp isLast]
      exact ne_of_mem_of_not_mem listed outside
    case listed =>
      intro other
      by_cases same : other = agent
      · simp [same]
      · rw [Agents.advance_stage_of_ne _ _ _ _ same, ← orderly.listed other]
        simp [same]

theorem Orderly.resume (orderly : Orderly state line) (stepped : step state (agent, .resume) = some next) :
    ∃ rest, line = agent :: rest ∧ Orderly next rest := by
  simp only [step] at stepped
  split at stepped <;> try contradiction
  rename_i waiting
  obtain ⟨lock, resumed, rfl⟩ := Option.map_eq_some_iff.mp stepped
  obtain ⟨unlocked, rest, rfl, rfl⟩ := orderly.resume_iff.mp resumed
  refine ⟨rest, rfl, ?_⟩
  have distinct := List.nodup_cons.mp orderly.distinct
  constructor
  case guarded => exact orderly.guarded.acquire (by simp [unlocked]) rfl
  case held => exact fun _ => ⟨agent, by simp⟩
  case waiters => rfl
  case distinct => exact distinct.2
  case listed =>
    intro other
    by_cases same : other = agent
    · simp [same, distinct.1]
    · rw [Agents.advance_stage_of_ne _ _ _ _ same, ← orderly.listed other]
      simp [same]

theorem Orderly.release (orderly : Orderly state line) (stepped : step state (agent, .release) = some next) :
    Orderly next line := by
  simp only [step] at stepped
  split at stepped <;> try contradiction
  rename_i holding
  obtain ⟨lock, released, rfl⟩ := Option.map_eq_some_iff.mp stepped
  simp only [FairLock.release, Option.ite_none_right_eq_some, Option.some.injEq] at released
  obtain ⟨locked, rfl⟩ := released
  constructor
  case guarded => exact orderly.guarded.leave holding (by simp)
  case held =>
    intro still
    cases still
  case waiters =>
    simp only [Agents.advance_shared, orderly.waiters, locked]
    cases line <;> rfl
  case distinct => exact orderly.distinct
  case listed =>
    intro other
    by_cases same : other = agent
    · subst same
      simp [orderly.listed, holding]
    · rw [Agents.advance_stage_of_ne _ _ _ _ same]
      exact orderly.listed other

/-- Every step keeps the order. The agents that wait are the same after a release. -/
theorem Orderly.step {event : ι × LockAction} (orderly : Orderly state line)
    (stepped : step state event = some next) : ∃ following, Orderly next following := by
  obtain ⟨agent, action⟩ := event
  cases action with
  | acquire =>
    have asked := stepped
    simp only [FairLock.step] at asked
    split at asked <;> try contradiction
    rename_i away
    exact ⟨_, orderly.acquire away stepped⟩
  | resume =>
    obtain ⟨rest, -, following⟩ := orderly.resume stepped
    exact ⟨rest, following⟩
  | release => exact ⟨line, orderly.release stepped⟩

/-- No waiter is forgotten: somebody holds the lock, or the first waiter goes on. -/
theorem Orderly.goes_on (orderly : Orderly state line) (waiting : state.stage agent = .waiting) :
    (∃ holder, state.stage holder = .holding) ∨
      ∃ first, state.stage first = .waiting ∧ (FairLock.step state (first, .resume)).isSome = true := by
  cases locked : state.shared.locked with
  | true => exact .inl (orderly.held locked)
  | false =>
    have listed := (orderly.listed agent).mpr waiting
    cases line with
    | nil => cases listed
    | cons first rest =>
      have waits := (orderly.listed first).mp List.mem_cons_self
      have resumed := orderly.resume_iff.mpr ⟨locked, rest, rfl, rfl⟩
      exact .inr ⟨first, waits, by simp [FairLock.step, waits, resumed]⟩

end FairLock

end Wotemu.Foundation
