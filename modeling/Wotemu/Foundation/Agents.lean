import Mathlib.Logic.Function.Basic
import Wotemu.Foundation.Transition

/-! Agents that share data and take turns.

A step belongs to one agent: it looks at the shared data and at its own stage,
and changes nothing else. What holds of every agent, of some agent or of at most
one agent is kept by a step for reasons about the acting agent alone.
-/

set_option autoImplicit false

namespace Wotemu.Foundation

structure Agents (ι σ κ : Type) where
  shared : σ
  stage : ι → κ

namespace Agents

variable {ι σ κ α : Type} [DecidableEq ι]

def advance (state : Agents ι σ κ) (agent : ι) (shared : σ) (stage : κ) : Agents ι σ κ :=
  ⟨shared, Function.update state.stage agent stage⟩

def step (act : α → σ → κ → Option (σ × κ)) : Transition (Agents ι σ κ) (ι × α) := fun state event =>
  (act event.2 state.shared (state.stage event.1)).map fun result => state.advance event.1 result.1 result.2

theorem step_eq_some {act : α → σ → κ → Option (σ × κ)} {state next : Agents ι σ κ} {event : ι × α} :
    step act state event = some next ↔ ∃ result,
      act event.2 state.shared (state.stage event.1) = some result ∧ state.advance event.1 result.1 result.2 = next :=
  Option.map_eq_some_iff

variable (state : Agents ι σ κ) (agent : ι) (shared : σ) (stage : κ)

@[simp] theorem advance_shared : (state.advance agent shared stage).shared = shared := rfl

@[simp] theorem advance_stage_self : (state.advance agent shared stage).stage agent = stage :=
  Function.update_self ..

theorem advance_stage_of_ne {other : ι} (different : other ≠ agent) :
    (state.advance agent shared stage).stage other = state.stage other :=
  Function.update_of_ne different ..

def AtMostOne (kind : κ → Prop) : Prop :=
  ∀ first second, kind (state.stage first) → kind (state.stage second) → first = second

variable {state agent shared stage} (kind : κ → Prop)

theorem forall_advance (all : ∀ other, kind (state.stage other)) (new : kind stage) (other : ι) :
    kind ((state.advance agent shared stage).stage other) := by
  by_cases same : other = agent
  · rw [same, advance_stage_self]; exact new
  · rw [advance_stage_of_ne _ _ _ _ same]; exact all other

theorem exists_advance (some : ∃ other, kind (state.stage other)) (kept : kind (state.stage agent) → kind stage) :
    ∃ other, kind ((state.advance agent shared stage).stage other) := by
  obtain ⟨other, holds⟩ := some
  by_cases same : other = agent
  · refine ⟨agent, ?_⟩
    rw [advance_stage_self]
    exact kept (same ▸ holds)
  · refine ⟨other, ?_⟩
    rw [advance_stage_of_ne _ _ _ _ same]
    exact holds

theorem before_advance {other : ι} (holds : kind ((state.advance agent shared stage).stage other)) :
    other = agent ∧ kind stage ∨ other ≠ agent ∧ kind (state.stage other) := by
  by_cases same : other = agent
  · rw [same, advance_stage_self] at holds
    exact .inl ⟨same, holds⟩
  · rw [advance_stage_of_ne _ _ _ _ same] at holds
    exact .inr ⟨same, holds⟩

variable {kind}

theorem AtMostOne.advance_within (one : state.AtMostOne kind) (within : kind stage → kind (state.stage agent)) :
    (state.advance agent shared stage).AtMostOne kind := by
  intro first second left right
  have back : ∀ other, kind ((state.advance agent shared stage).stage other) → kind (state.stage other) := by
    intro other holds
    rcases before_advance kind holds with ⟨same, new⟩ | ⟨-, old⟩
    · rw [same]; exact within new
    · exact old
  exact one first second (back first left) (back second right)

theorem AtMostOne.advance_first (free : ∀ other, ¬ kind (state.stage other)) :
    (state.advance agent shared stage).AtMostOne kind := by
  intro first second left right
  have back : ∀ other, kind ((state.advance agent shared stage).stage other) → other = agent := by
    intro other holds
    rcases before_advance kind holds with ⟨same, -⟩ | ⟨-, old⟩
    · exact same
    · exact absurd old (free other)
  rw [back first left, back second right]

/-- A lock in the shared data: whoever holds it is alone, and it is locked. -/
structure Guarded (holding : κ → Prop) (locked : σ → Prop) (state : Agents ι σ κ) : Prop where
  alone : state.AtMostOne holding
  locked : ∀ other, holding (state.stage other) → locked state.shared

variable {holding : κ → Prop} {locked : σ → Prop}

omit [DecidableEq ι] in
theorem Guarded.free (guarded : state.Guarded holding locked) (unlocked : ¬ locked state.shared) (other : ι) :
    ¬ holding (state.stage other) := fun holds => unlocked (guarded.locked other holds)

theorem Guarded.acquire (guarded : state.Guarded holding locked) (unlocked : ¬ locked state.shared)
    (taken : locked shared) : (state.advance agent shared stage).Guarded holding locked :=
  ⟨.advance_first (guarded.free unlocked), fun _ _ => taken⟩

theorem Guarded.proceed (guarded : state.Guarded holding locked)
    (within : holding stage → holding (state.stage agent)) (still : locked state.shared → locked shared) :
    (state.advance agent shared stage).Guarded holding locked := by
  refine ⟨guarded.alone.advance_within within, fun other holds => still ?_⟩
  rcases before_advance holding holds with ⟨-, new⟩ | ⟨-, old⟩
  · exact guarded.locked agent (within new)
  · exact guarded.locked other old

/-- The holder may unlock when it stops holding, for nobody else holds. -/
theorem Guarded.leave (guarded : state.Guarded holding locked) (holder : holding (state.stage agent))
    (left : ¬ holding stage) : (state.advance agent shared stage).Guarded holding locked := by
  -- the acting agent was the only holder
  have nobody : ∀ other, ¬ holding ((state.advance agent shared stage).stage other) := by
    intro other holds
    rcases before_advance holding holds with ⟨-, new⟩ | ⟨different, old⟩
    · exact left new
    · exact different (guarded.alone other agent old holder)
  exact ⟨fun first _ holds => absurd holds (nobody first), fun other holds => absurd holds (nobody other)⟩

end Agents

end Wotemu.Foundation
