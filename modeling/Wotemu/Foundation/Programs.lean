import Mathlib.Data.List.Basic

/-! Rules for programs that change a state and may raise.

What a program did before an exception stays, so a rule about the states before
and after a run says nothing about how the run ended. A program that respects a
relation of states returns the same in related ones. A program mirrors a
computation without a state when it ends like it from every state of an invariant.
-/

set_option autoImplicit false

namespace Wotemu.Foundation

variable {ε σ α β ι : Type}

/-- The states before and after a run are related, and a value that is returned meets the
postcondition. -/
def Keeps (R : σ → σ → Prop) (program : EStateM ε σ α) (post : α → Prop) : Prop :=
  ∀ before, match program before with
    | .ok value after => R before after ∧ post value
    | .error _ after => R before after

/-- Runs from related states end in the same way and in related states. -/
def Respects (E : σ → σ → Prop) (program : EStateM ε σ α) : Prop :=
  ∀ left right, E left right → match program left, program right with
    | .ok value left', .ok other right' => value = other ∧ E left' right'
    | .error why left', .error other right' => why = other ∧ E left' right'
    | _, _ => False

/-- From every state of the invariant, the program returns or raises as the computation does. -/
def Mirrors (I : σ → Prop) (R : α → β → Prop) (program : EStateM ε σ α) (result : Except ε β) : Prop :=
  ∀ before, I before → match program before, result with
    | .ok value after, .ok other => R value other ∧ I after
    | .error why after, .error other => why = other ∧ I after
    | _, _ => False

section Sequence

variable {program : EStateM ε σ α} {rest : α → EStateM ε σ β} {before after : σ}

theorem bind_returned {value : α} (returned : program before = .ok value after) :
    (program >>= rest) before = rest value after := by
  change (match program before with
    | .ok value after => rest value after
    | .error why after => .error why after) = _
  rw [returned]

theorem bind_raised {why : ε} (raised : program before = .error why after) :
    (program >>= rest) before = .error why after := by
  change (match program before with
    | .ok value after => rest value after
    | .error why after => .error why after) = _
  rw [raised]

theorem catch_returned {handler : ε → EStateM ε σ α} {value : α} (returned : program before = .ok value after) :
    (tryCatch program handler : EStateM ε σ α) before = .ok value after := by
  change EStateM.tryCatch program handler before = _
  rw [EStateM.tryCatch, returned]

theorem catch_raised {handler : ε → EStateM ε σ α} {why : ε} (raised : program before = .error why after) :
    (tryCatch program handler : EStateM ε σ α) before = handler why after := by
  change EStateM.tryCatch program handler before = _
  rw [EStateM.tryCatch, raised]
  rfl

end Sequence

namespace Keeps

variable {R S T : σ → σ → Prop} {post : α → Prop} {next : β → Prop}

theorem pure (reflexive : ∀ state, R state state) {value : α} (holds : post value) :
    Keeps (ε := ε) R (Pure.pure value) post := by
  intro before
  exact ⟨reflexive before, holds⟩

theorem throw (reflexive : ∀ state, R state state) (why : ε) :
    Keeps R (MonadExcept.throw why : EStateM ε σ α) post := by
  intro before
  exact reflexive before

theorem imp {program : EStateM ε σ α} (keeps : Keeps R program post) (weaker : ∀ a b, R a b → S a b)
    {other : α → Prop} (implies : ∀ value, post value → other value) : Keeps S program other := by
  intro before
  have holds := keeps before
  cases run : program before with
  | ok value after =>
    rw [run] at holds
    exact ⟨weaker _ _ holds.1, implies value holds.2⟩
  | error why after =>
    rw [run] at holds
    exact weaker _ _ holds

/-- The first program ends in an exception, or the second one runs on from its state. -/
theorem bind {program : EStateM ε σ α} {rest : α → EStateM ε σ β} (first : Keeps R program post)
    (second : ∀ value, post value → Keeps S (rest value) next) (raised : ∀ a b, R a b → T a b)
    (trans : ∀ a b c, R a b → S b c → T a c) : Keeps T (program >>= rest) next := by
  intro before
  change match (match program before with
    | .ok value after => rest value after
    | .error why after => .error why after) with
    | .ok value after => T before after ∧ next value
    | .error _ after => T before after
  have holds := first before
  cases run : program before with
  | error why after =>
    rw [run] at holds
    exact raised _ _ holds
  | ok value middle =>
    rw [run] at holds
    have later := second value holds.2 middle
    simp only
    cases runRest : rest value middle with
    | ok result after =>
      rw [runRest] at later
      exact ⟨trans _ _ _ holds.1 later.1, later.2⟩
    | error why after =>
      rw [runRest] at later
      exact trans _ _ _ holds.1 later

theorem foldlM (reflexive : ∀ state, R state state) (trans : ∀ a b c, R a b → R b c → R a c)
    {step : β → ι → EStateM ε σ β} (each : ∀ acc item, next acc → Keeps R (step acc item) next)
    (items : List ι) {start : β} (holds : next start) : Keeps R (items.foldlM step start) next := by
  induction items generalizing start with
  | nil => exact Keeps.pure reflexive holds
  | cons item rest ih =>
    rw [List.foldlM_cons]
    exact (each start item holds).bind (fun acc accHolds => ih accHolds) (fun _ _ related => related) trans

end Keeps

namespace Respects

variable {E : σ → σ → Prop}

theorem pure (value : α) : Respects (ε := ε) E (Pure.pure value) := by
  intro left right related
  exact ⟨rfl, related⟩

theorem throw (why : ε) : Respects E (MonadExcept.throw why : EStateM ε σ α) := by
  intro left right related
  exact ⟨rfl, related⟩

theorem bind {program : EStateM ε σ α} {rest : α → EStateM ε σ β} (first : Respects E program)
    (second : ∀ value, Respects E (rest value)) : Respects E (program >>= rest) := by
  intro left right related
  have same := first left right related
  change match (match program left with
      | .ok value after => rest value after
      | .error why after => .error why after),
    (match program right with
      | .ok value after => rest value after
      | .error why after => .error why after) with
    | .ok value left', .ok other right' => value = other ∧ E left' right'
    | .error why left', .error other right' => why = other ∧ E left' right'
    | _, _ => False
  cases runLeft : program left with
  | ok value left' =>
    cases runRight : program right with
    | ok other right' =>
      rw [runLeft, runRight] at same
      obtain ⟨rfl, later⟩ := same
      exact second value left' right' later
    | error why right' =>
      rw [runLeft, runRight] at same
      exact same.elim
  | error why left' =>
    cases runRight : program right with
    | ok other right' =>
      rw [runLeft, runRight] at same
      exact same.elim
    | error other right' =>
      rw [runLeft, runRight] at same
      exact same

theorem foldlM {step : β → ι → EStateM ε σ β} (each : ∀ acc item, Respects E (step acc item)) (items : List ι)
    (start : β) : Respects E (items.foldlM step start) := by
  induction items generalizing start with
  | nil => exact Respects.pure start
  | cons item rest ih =>
    rw [List.foldlM_cons]
    exact (each start item).bind ih

end Respects

namespace Mirrors

variable {γ δ : Type} {I : σ → Prop} {R : α → β → Prop} {S : γ → δ → Prop}

theorem pure {value : α} {other : β} (related : R value other) :
    Mirrors (ε := ε) I R (Pure.pure value) (.ok other) := by
  intro before holds
  exact ⟨related, holds⟩

theorem throw (why : ε) : Mirrors I R (MonadExcept.throw why : EStateM ε σ α) (.error why) := by
  intro before holds
  exact ⟨rfl, holds⟩

theorem step {program : EStateM ε σ α} {other : β} {rest : α → EStateM ε σ γ} {result : Except ε δ}
    (first : Mirrors I R program (.ok other))
    (second : ∀ value, R value other → Mirrors I S (rest value) result) : Mirrors I S (program >>= rest) result := by
  intro before holds
  have ends := first before holds
  cases run : program before with
  | ok value middle =>
    rw [run] at ends
    rw [bind_returned run]
    exact second value ends.1 middle ends.2
  | error why middle =>
    rw [run] at ends
    exact ends.elim

theorem raised {program : EStateM ε σ α} {why : ε} {rest : α → EStateM ε σ γ}
    (first : Mirrors I R program (.error why)) : Mirrors I S (program >>= rest) (.error why) := by
  intro before holds
  have ends := first before holds
  cases run : program before with
  | ok value middle =>
    rw [run] at ends
    exact ends.elim
  | error other middle =>
    rw [run] at ends
    rw [bind_raised run]
    exact ends

theorem bind {program : EStateM ε σ α} {result : Except ε β} {rest : α → EStateM ε σ γ} {next : β → Except ε δ}
    (first : Mirrors I R program result)
    (second : ∀ value other, result = .ok other → R value other → Mirrors I S (rest value) (next other)) :
    Mirrors I S (program >>= rest) (result >>= next) := by
  cases result with
  | ok other => exact first.step fun value related => second value other rfl related
  | error why => exact first.raised

theorem returns {program : EStateM ε σ α} {other : β} {found : δ} {S : α → δ → Prop}
    (mirrors : Mirrors I R program (.ok other)) (related : ∀ value, R value other → S value found) :
    Mirrors I S program (.ok found) := by
  intro before holds
  have ends := mirrors before holds
  cases run : program before with
  | ok value after =>
    rw [run] at ends
    exact ⟨related value ends.1, ends.2⟩
  | error why after =>
    rw [run] at ends
    exact ends.elim

theorem foldlM {step : γ → ι → EStateM ε σ γ} {other : δ → ι → Except ε δ} {items : List ι}
    (each : ∀ item ∈ items, ∀ acc found, S acc found → Mirrors I S (step acc item) (other found item))
    {start : γ} {first : δ} (related : S start first) :
    Mirrors I S (items.foldlM step start) (items.foldlM other first) := by
  induction items generalizing start first with
  | nil => exact Mirrors.pure related
  | cons item rest ih =>
    rw [List.foldlM_cons, List.foldlM_cons]
    have here := each item List.mem_cons_self start first related
    exact here.bind fun acc found _ accRelated =>
      ih (fun other member => each other (List.mem_cons_of_mem _ member)) accRelated

theorem foldl {step : γ → ι → EStateM ε σ γ} {other : δ → ι → δ} {items : List ι}
    (each : ∀ item ∈ items, ∀ acc found, S acc found → Mirrors I S (step acc item) (.ok (other found item)))
    {start : γ} {first : δ} (related : S start first) :
    Mirrors I S (items.foldlM step start) (.ok (items.foldl other first)) := by
  have returned : items.foldlM (fun acc item => Except.ok (ε := ε) (other acc item)) first =
      .ok (items.foldl other first) := List.foldlM_pure
  rw [← returned]
  exact foldlM each related

end Mirrors

end Wotemu.Foundation
