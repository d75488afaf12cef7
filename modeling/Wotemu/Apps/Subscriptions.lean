import Mathlib.Data.List.Nodup
import Wotemu.Foundation.Stages
import Wotemu.Foundation.Transition

/-! The subscriptions of the subscriber and the detector over their error rounds.

An error wakes the loop, which calls `_cancel_subs` without awaiting it, so that
nothing is disposed, and then subscribes again. A subscription that errs or
completes is detached by Rx.
-/

set_option autoImplicit false

namespace Wotemu

open Wotemu.Foundation

structure Subscription (ι : Type) where
  interaction : ι
  round : Nat
  undisposed : Bool
  deriving DecidableEq

namespace Subscription

variable {ι : Type}

def dispose (sub : Subscription ι) : Subscription ι := { sub with undisposed := false }

def opened (round : Nat) (interactions : List ι) : List (Subscription ι) :=
  interactions.map fun interaction => ⟨interaction, round, true⟩

def active (subs : List (Subscription ι)) : List ι := (subs.filter undisposed).map interaction

def isActive (subs : List (Subscription ι)) (index : Nat) : Bool := (subs[index]?).any undisposed

def Settled (subs : List (Subscription ι)) : Prop := active subs = []

instance (subs : List (Subscription ι)) : Decidable (Settled subs) := decidable_of_iff (active subs).isEmpty (by
  unfold Settled
  exact List.isEmpty_iff)

/-- No interaction has two subscriptions that are not disposed, and all such subscriptions are of the
current round. -/
structure Exclusive (round : Nat) (subs : List (Subscription ι)) : Prop where
  single : (active subs).Nodup
  current : ∀ sub ∈ subs, sub.undisposed = true → sub.round = round

variable {round : Nat} {subs : List (Subscription ι)} {interactions : List ι}

theorem active_append (others : List (Subscription ι)) : active (subs ++ others) = active subs ++ active others := by
  unfold active
  rw [List.filter_append, List.map_append]

theorem active_opened (round : Nat) (interactions : List ι) : active (opened round interactions) = interactions := by
  unfold active opened
  rw [List.filter_eq_self.mpr (by simp), List.map_map]
  exact List.map_id interactions

def Disposes (subs next : List (Subscription ι)) : Prop :=
  List.Forall₂ (fun before after => after = before ∨ after = before.dispose) subs next

theorem disposes_modify (subs : List (Subscription ι)) (index : Nat) : Disposes subs (subs.modify index dispose) := by
  induction subs generalizing index with
  | nil =>
    rw [List.modify_nil]
    exact .nil
  | cons sub rest ih =>
    cases index with
    | zero => exact .cons (.inr rfl) (List.forall₂_same.mpr fun _ _ => .inl rfl)
    | succ index => exact .cons (.inl rfl) (ih index)

theorem disposes_map {f : Subscription ι → Subscription ι} (kept : ∀ sub, f sub = sub ∨ f sub = sub.dispose)
    (subs : List (Subscription ι)) : Disposes subs (subs.map f) :=
  List.forall₂_map_right_iff.mpr (List.forall₂_same.mpr fun sub _ => kept sub)

theorem Disposes.active_sublist {next : List (Subscription ι)} (disposes : Disposes subs next) :
    (active next).Sublist (active subs) := by
  induction disposes with
  | nil => exact List.Sublist.refl []
  | @cons before after subs next here _ ih =>
    unfold active at ih ⊢
    cases here with
    | inl same =>
      rw [same]
      cases undisposed : before.undisposed with
      | true =>
        rw [List.filter_cons_of_pos undisposed, List.filter_cons_of_pos undisposed]
        exact ih.cons_cons _
      | false =>
        rw [List.filter_cons_of_neg (by simp [undisposed]), List.filter_cons_of_neg (by simp [undisposed])]
        exact ih
    | inr disposed =>
      rw [disposed, List.filter_cons_of_neg (by simp [dispose])]
      exact ih.trans ((List.sublist_cons_self before subs).filter _ |>.map _)

theorem settled_iff : Settled subs ↔ ∀ sub ∈ subs, sub.undisposed = false := by
  unfold Settled active
  simp

theorem Disposes.settled {next : List (Subscription ι)} (disposes : Disposes subs next) (settled : Settled subs) :
    Settled next := by
  have kept := disposes.active_sublist
  rw [settled] at kept
  exact List.sublist_nil.mp kept

theorem Exclusive.disposes {next : List (Subscription ι)} (exclusive : Exclusive round subs)
    (disposes : Disposes subs next) : Exclusive round next where
  single := exclusive.single.sublist disposes.active_sublist
  current := by
    intro sub member undisposed
    obtain ⟨before, isBefore, kept⟩ := exists_item_of_forall₂ disposes member
    cases kept with
    | inl same =>
      rw [same] at undisposed ⊢
      exact exclusive.current before isBefore undisposed
    | inr disposed =>
      rw [disposed] at undisposed
      cases undisposed

theorem Exclusive.open (exclusive : Exclusive round subs) (distinct : interactions.Nodup)
    (others : ∀ interaction ∈ interactions, interaction ∉ active subs) :
    Exclusive round (subs ++ opened round interactions) where
  single := by
    rw [active_append, active_opened]
    exact List.nodup_append'.mpr ⟨exclusive.single, distinct, fun _ inActive isNew => others _ isNew inActive⟩
  current := by
    intro sub member undisposed
    cases List.mem_append.mp member with
    | inl before => exact exclusive.current sub before undisposed
    | inr new =>
      obtain ⟨interaction, -, rfl⟩ := List.mem_map.mp new
      rfl

theorem Settled.exclusive (settled : Settled subs) (round : Nat) : Exclusive round subs where
  single := by
    rw [settled]
    exact List.nodup_nil
  current := by
    intro sub member undisposed
    rw [settled_iff.mp settled sub member] at undisposed
    cases undisposed

end Subscription

end Wotemu
