import Mathlib.Logic.Basic

/-! Systems that take labelled steps, and what holds along their runs.

A step that is not enabled gives no state. A condition on the steps of a run
speaks about the state before each step and its label.
-/

set_option autoImplicit false

namespace Wotemu.Foundation

abbrev Transition (σ ε : Type) := σ → ε → Option σ

namespace Transition

variable {σ ε : Type} (step : Transition σ ε)

def run (start : σ) (events : List ε) : Option σ := events.foldlM step start

/-- Every step of a run meets the condition. -/
def Along (allowed : σ → ε → Prop) : σ → List ε → Prop
  | _, [] => True
  | state, event :: rest => allowed state event ∧ ∀ next, step state event = some next → Along allowed next rest

variable {step}

@[simp] theorem run_nil (start : σ) : run step start [] = some start := rfl

theorem run_cons {start finish : σ} {event : ε} {rest : List ε} :
    run step start (event :: rest) = some finish ↔
      ∃ next, step start event = some next ∧ run step next rest = some finish := by
  unfold run
  rw [List.foldlM_cons]
  exact Option.bind_eq_some_iff

/-- What holds at the start and is kept by every step that meets the condition holds at the end. -/
theorem run_preserves {allowed : σ → ε → Prop} {invariant : σ → Prop}
    (preserves : ∀ state event next, invariant state → allowed state event →
      step state event = some next → invariant next)
    {start finish : σ} {events : List ε} (initial : invariant start)
    (ran : run step start events = some finish) (along : Along step allowed start events) :
    invariant finish := by
  induction events generalizing start with
  | nil => cases ran; exact initial
  | cons event rest ih =>
    obtain ⟨next, stepped, ran⟩ := run_cons.mp ran
    exact ih (preserves start event next initial along.1 stepped) ran (along.2 next stepped)

theorem along_cons {allowed : σ → ε → Prop} {start next : σ} {event : ε} {rest : List ε}
    (stepped : step start event = some next) :
    Along step allowed start (event :: rest) ↔ allowed start event ∧ Along step allowed next rest := by
  simp [Along, stepped]

theorem Along.and {first second : σ → ε → Prop} {start : σ} {events : List ε} (left : Along step first start events)
    (right : Along step second start events) :
    Along step (fun state event => first state event ∧ second state event) start events := by
  induction events generalizing start with
  | nil => trivial
  | cons event rest ih =>
    exact ⟨⟨left.1, right.1⟩, fun next stepped => ih (left.2 next stepped) (right.2 next stepped)⟩

theorem run_append {start middle finish : σ} {first second : List ε} (ran : run step start first = some middle)
    (further : run step middle second = some finish) : run step start (first ++ second) = some finish := by
  induction first generalizing start with
  | nil =>
    cases ran
    exact further
  | cons event first ih =>
    obtain ⟨next, stepped, ran⟩ := run_cons.mp ran
    exact run_cons.mpr ⟨next, stepped, ih ran⟩

theorem run_concat {start finish : σ} {events : List ε} {event : ε} :
    run step start (events ++ [event]) = some finish ↔
      ∃ middle, run step start events = some middle ∧ step middle event = some finish := by
  unfold run
  rw [List.foldlM_append]
  simp [Option.bind_eq_some_iff]

/-- When each step is matched by a run of another system, so is each run. -/
theorem run_simulated {τ δ : Type} {other : Transition τ δ} {relation : σ → τ → Prop}
    (simulates : ∀ state event next image, step state event = some next → relation state image →
      ∃ matching result, run other image matching = some result ∧ relation next result)
    {start finish : σ} {events : List ε} (ran : run step start events = some finish) {image : τ}
    (related : relation start image) :
    ∃ matching result, run other image matching = some result ∧ relation finish result := by
  induction events generalizing start image with
  | nil =>
    cases ran
    exact ⟨[], image, rfl, related⟩
  | cons event rest ih =>
    obtain ⟨next, stepped, ran⟩ := run_cons.mp ran
    obtain ⟨first, middle, matched, related⟩ := simulates start event next image stepped related
    obtain ⟨second, result, further, related⟩ := ih ran related
    exact ⟨first ++ second, result, run_append matched further, related⟩

theorem Along.after {allowed : σ → ε → Prop} {start middle : σ} {first second : List ε}
    (along : Along step allowed start (first ++ second)) (ran : run step start first = some middle) :
    Along step allowed middle second := by
  induction first generalizing start with
  | nil =>
    cases ran
    exact along
  | cons event first ih =>
    obtain ⟨next, stepped, ran⟩ := run_cons.mp ran
    exact ih (along.2 next stepped) ran

theorem Along.relates {relation : σ → σ → Prop} (same : ∀ state, relation state state)
    (compose : ∀ first second third, relation first second → relation second third → relation first third)
    {start finish : σ} {first second : List ε}
    (along : Along step (fun state event => ∀ next, step state event = some next → relation state next) start
      (first ++ second))
    (ran : run step start first = some finish) : relation start finish := by
  induction first generalizing start with
  | nil =>
    cases ran
    exact same _
  | cons event first ih =>
    obtain ⟨next, stepped, ran⟩ := run_cons.mp ran
    exact compose _ _ _ (along.1 next stepped) (ih (along.2 next stepped) ran)

/-- A relation that composes holds at every step of a run exactly when it holds between any two
states of the run. -/
theorem along_iff_between {relation : σ → σ → Prop} (same : ∀ state, relation state state)
    (compose : ∀ first second third, relation first second → relation second third → relation first third)
    (start : σ) (events : List ε) :
    Along step (fun state event => ∀ next, step state event = some next → relation state next) start events ↔
      ∀ before during after, events = before ++ (during ++ after) → ∀ middle later,
        run step start before = some middle → run step middle during = some later → relation middle later := by
  constructor
  · intro along before during after split middle later ran between
    subst split
    exact (along.after ran).relates same compose between
  · intro between
    induction events generalizing start with
    | nil => trivial
    | cons event rest ih =>
      refine ⟨fun next stepped => ?_, fun next stepped => ih next fun before during after split middle later ran => ?_⟩
      · exact between [] [event] rest rfl start next rfl (run_cons.mpr ⟨next, stepped, rfl⟩)
      · exact between (event :: before) during after (congrArg (event :: ·) split) middle later
          (run_cons.mpr ⟨next, stepped, ran⟩)

theorem along_of_preserves {allowed does : σ → ε → Prop} {invariant : σ → Prop}
    (preserves : ∀ state event, invariant state → allowed state event →
      does state event ∧ ∀ next, step state event = some next → invariant next)
    {start : σ} {events : List ε} (initial : invariant start) (along : Along step allowed start events) :
    Along step does start events := by
  induction events generalizing start with
  | nil => trivial
  | cons event rest ih =>
    have first := preserves start event initial along.1
    exact ⟨first.1, fun next stepped => ih (first.2 next stepped) (along.2 next stepped)⟩

theorem along_of_forall {label : ε → Prop} {events : List ε} (labels : ∀ event ∈ events, label event) (start : σ) :
    Along step (fun _ event => label event) start events := by
  induction events generalizing start with
  | nil => trivial
  | cons event rest ih =>
    obtain ⟨first, labels⟩ := List.forall_mem_cons.mp labels
    exact ⟨first, fun next _ => ih labels next⟩

theorem run_invariant {label : ε → Prop} {invariant : σ → Prop}
    (preserves : ∀ state event next, label event → invariant state → step state event = some next → invariant next)
    {start finish : σ} {events : List ε} (labels : ∀ event ∈ events, label event) (initial : invariant start)
    (ran : run step start events = some finish) : invariant finish :=
  run_preserves (fun state event next holds allowed => preserves state event next allowed holds) initial ran
    (along_of_forall labels start)

/-- Steps of a kind are as many as a measure allows that each of them uses up and no step raises. -/
theorem count_le {allowed : σ → ε → Prop} {invariant : σ → Prop} {measure : σ → Int} {counts : ε → Bool}
    (preserves : ∀ state event next, invariant state → step state event = some next → invariant next)
    (uses : ∀ state event next, invariant state → allowed state event → step state event = some next →
      measure next + (if counts event then 1 else 0) ≤ measure state)
    {start finish : σ} {events : List ε} (initial : invariant start) (ran : run step start events = some finish)
    (along : Along step allowed start events) : measure finish + events.countP counts ≤ measure start := by
  induction events generalizing start with
  | nil =>
    cases ran
    simp
  | cons event rest ih =>
    obtain ⟨next, stepped, ran⟩ := run_cons.mp ran
    have here := uses start event next initial along.1 stepped
    have later := ih (preserves start event next initial stepped) ran (along.2 next stepped)
    rw [List.countP_cons]
    split at here <;> simp_all <;> omega

instance decidableAlong (allowed : σ → ε → Prop) [∀ state event, Decidable (allowed state event)] :
    ∀ start events, Decidable (Along step allowed start events)
  | _, [] => .isTrue trivial
  | start, event :: rest => match stepped : step start event with
    | none => decidable_of_iff (allowed start event) (by simp [Along, stepped])
    | some next =>
      have := decidableAlong allowed next rest
      decidable_of_iff (allowed start event ∧ Along step allowed next rest) (along_cons stepped).symm

/-- When exactly the steps against the condition leave a mark, and a mark lasts, a run from a
state without marks meets the condition exactly when there is no mark at its end. -/
theorem marked_iff {allowed : σ → ε → Prop} {label : ε → Prop} {invariant marked : σ → Prop}
    (preserves : ∀ state event next, label event → invariant state → step state event = some next → invariant next)
    (marks : ∀ state event next, label event → invariant state → step state event = some next →
      (marked next ↔ marked state ∨ ¬ allowed state event))
    {start finish : σ} {events : List ε} (labels : ∀ event ∈ events, label event) (initial : invariant start)
    (ran : run step start events = some finish) :
    marked finish ↔ marked start ∨ ¬ Along step allowed start events := by
  induction events generalizing start with
  | nil =>
    cases ran
    simp [Along]
  | cons event rest ih =>
    obtain ⟨next, stepped, ran⟩ := run_cons.mp ran
    obtain ⟨first, labels⟩ := List.forall_mem_cons.mp labels
    rw [ih labels (preserves start event next first initial stepped) ran, marks start event next first initial stepped,
      along_cons stepped, not_and_or, or_assoc]

end Transition

end Wotemu.Foundation
