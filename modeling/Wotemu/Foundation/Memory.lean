import Mathlib.Data.List.GetD

/-! Objects in memory whose parts are arrays.

Objects refer to arrays by their numbers, so that two of them may share one. A
party changes what it can reach; what is secluded from it keeps its value.
-/

set_option autoImplicit false

namespace Wotemu.Foundation

inductive Content (κ β γ : Type) where
  | table (parts : List (κ × γ))
  | plain (value : β)
  deriving DecidableEq

namespace Content

variable {κ β γ δ : Type}

def map (f : γ → δ) : Content κ β γ → Content κ β δ
  | table parts => table (parts.map fun part => (part.1, f part.2))
  | plain value => plain value

def members : Content κ β γ → List γ
  | table parts => parts.map Prod.snd
  | plain _ => []

def placed (base : Nat) : Content κ β γ → Content κ β Nat
  | table parts => table (parts.mapIdx fun i part => (part.1, base + i))
  | plain value => plain value

theorem map_congr {f g : γ → δ} {content : Content κ β γ} (same : ∀ member ∈ content.members, f member = g member) :
    content.map f = content.map g := by
  cases content with
  | plain value => rfl
  | table parts =>
    refine congrArg table (List.map_congr_left fun part inside => ?_)
    rw [same part.2 (List.mem_map_of_mem inside)]

theorem mem_placed {content : Content κ β γ} {base i : Nat} (member : i ∈ (content.placed base).members) :
    base ≤ i ∧ i < base + content.members.length := by
  cases content with
  | plain value => cases member
  | table parts =>
    simp only [placed, members, List.mem_map, List.mem_mapIdx] at member
    obtain ⟨_, ⟨position, inside, rfl⟩, rfl⟩ := member
    simpa [members] using inside

theorem map_placed {content : Content κ β γ} {base : Nat} {f : Nat → γ}
    (found : ∀ i (inside : i < content.members.length), f (base + i) = content.members[i]) :
    (content.placed base).map f = content := by
  cases content with
  | plain value => rfl
  | table parts =>
    refine congrArg table (List.ext_getElem (by simp) fun i _ inside => ?_)
    have same := found i (by simpa [members] using inside)
    simp only [members, List.getElem_map] at same
    simp [same]

end Content

structure Memory (κ β α : Type) where
  arrays : List (List α)
  objects : List (Content κ β Nat)

namespace Memory

variable {κ β α : Type}

def empty : Memory κ β α := ⟨[], []⟩

section Operations

variable (memory : Memory κ β α)

def cells (array : Nat) : List α := memory.arrays.getD array []

def content (object : Nat) : Content κ β Nat := memory.objects.getD object (.table [])

def parts (object : Nat) : List Nat := (memory.content object).members

/-- An object with the cells of its arrays in the place of their numbers. -/
def value (object : Nat) : Content κ β (List α) := (memory.content object).map memory.cells

def allocate (cells : List α) : Memory κ β α := { memory with arrays := memory.arrays ++ [cells] }

def overwrite (array : Nat) (cells : List α) : Memory κ β α :=
  { memory with arrays := memory.arrays.set array cells }

def replace (object : Nat) (content : Content κ β Nat) : Memory κ β α :=
  { memory with objects := memory.objects.set object content }

def make (value : Content κ β (List α)) : Nat × Memory κ β α :=
  (memory.objects.length, {
    arrays := memory.arrays ++ value.members
    objects := memory.objects ++ [value.placed memory.arrays.length] })

end Operations

structure Extends (later memory : Memory κ β α) : Prop where
  arrays : memory.arrays <+: later.arrays
  objects : memory.objects <+: later.objects

structure Has (memory : Memory κ β α) (object : Nat) : Prop where
  inside : object < memory.objects.length
  arrays : ∀ array ∈ memory.parts object, array < memory.arrays.length

structure Made (memory later : Memory κ β α) (object : Nat) : Prop where
  extended : later.Extends memory
  has : later.Has object
  fresh : memory.objects.length ≤ object
  parts : ∀ array ∈ later.parts object, memory.arrays.length ≤ array

variable {memory later : Memory κ β α} {object : Nat}

theorem getD_of_prefix {γ : Type} {items others : List γ} (extended : items <+: others) {i : Nat}
    (inside : i < items.length) (default : γ) : others.getD i default = items.getD i default := by
  obtain ⟨added, rfl⟩ := extended
  exact List.getD_append items added default i inside

namespace Extends

theorem content_eq (extended : later.Extends memory) (inside : object < memory.objects.length) :
    later.content object = memory.content object := getD_of_prefix extended.objects inside _

theorem parts_eq (extended : later.Extends memory) (inside : object < memory.objects.length) :
    later.parts object = memory.parts object := congrArg Content.members (extended.content_eq inside)

theorem has (extended : later.Extends memory) (has : memory.Has object) : later.Has object where
  inside := Nat.lt_of_lt_of_le has.inside extended.objects.length_le
  arrays := by
    rw [extended.parts_eq has.inside]
    exact fun array member => Nat.lt_of_lt_of_le (has.arrays array member) extended.arrays.length_le

theorem value_eq (extended : later.Extends memory) (has : memory.Has object) :
    later.value object = memory.value object := by
  rw [value, extended.content_eq has.inside]
  exact Content.map_congr fun array member => getD_of_prefix extended.arrays (has.arrays array member) _

end Extends

theorem extends_allocate (memory : Memory κ β α) (cells : List α) : (memory.allocate cells).Extends memory where
  arrays := List.prefix_append ..
  objects := List.prefix_rfl

theorem value_overwrite {array : Nat} (apart : array ∉ memory.parts object) (cells : List α) :
    (memory.overwrite array cells).value object = memory.value object := by
  refine Content.map_congr fun other member => ?_
  have different : array ≠ other := fun same => apart (same ▸ member)
  simp [Memory.cells, overwrite, List.getD_eq_getElem?_getD, List.getElem?_set_ne different]

theorem content_replace_of_ne {other : Nat} (different : other ≠ object) (content : Content κ β Nat) :
    (memory.replace other content).content object = memory.content object := by
  simp [Memory.content, replace, List.getD_eq_getElem?_getD, List.getElem?_set_ne different]

/-! What is made is new. -/

theorem extends_make (memory : Memory κ β α) (value : Content κ β (List α)) :
    (memory.make value).2.Extends memory where
  arrays := List.prefix_append ..
  objects := List.prefix_append ..

theorem content_make (memory : Memory κ β α) (value : Content κ β (List α)) :
    (memory.make value).2.content (memory.make value).1 = value.placed memory.arrays.length := by
  simp [make, content]

theorem value_make (memory : Memory κ β α) (value : Content κ β (List α)) :
    (memory.make value).2.value (memory.make value).1 = value := by
  rw [Memory.value, content_make]
  refine Content.map_placed fun i inside => ?_
  simp [cells, make, inside]

theorem mem_parts_make {value : Content κ β (List α)} {array : Nat}
    (member : array ∈ (memory.make value).2.parts (memory.make value).1) :
    memory.arrays.length ≤ array ∧ array < memory.arrays.length + value.members.length := by
  rw [parts, content_make] at member
  exact Content.mem_placed member

theorem made_make (memory : Memory κ β α) (value : Content κ β (List α)) :
    memory.Made (memory.make value).2 (memory.make value).1 where
  extended := memory.extends_make value
  has := ⟨by simp [make], fun array member => by simpa [make] using (mem_parts_make member).2⟩
  fresh := Nat.le_refl _
  parts := fun array member => (mem_parts_make member).1

end Memory

/-- A way to copy objects deeply: a copy is new and has the value of the object. -/
structure Copier (κ β α : Type) where
  copy : Memory κ β α → Nat → Nat × Memory κ β α
  made : ∀ (memory : Memory κ β α) (object : Nat), memory.Has object →
    memory.Made (copy memory object).2 (copy memory object).1
  value : ∀ (memory : Memory κ β α) (object : Nat), memory.Has object →
    (copy memory object).2.value (copy memory object).1 = memory.value object

/-- `copy.deepcopy` -/
def Copier.deep {κ β α : Type} : Copier κ β α where
  copy := fun memory object => memory.make (memory.value object)
  made := fun memory _ _ => memory.made_make _
  value := fun memory _ _ => memory.value_make _

structure Reach where
  objects : List Nat
  arrays : List Nat

/-- What a party may do: take a new array, fill an array, and make an object out of arrays. -/
inductive Change (κ β α : Type) where
  | create (cells : List α)
  | overwrite (array : Nat) (cells : List α)
  | replace (object : Nat) (content : Content κ β Nat)

namespace Reach

variable {κ β α : Type}

def empty : Reach := ⟨[], []⟩

def receive (reach : Reach) (memory : Memory κ β α) (object : Nat) : Reach where
  objects := object :: reach.objects
  arrays := memory.parts object ++ reach.arrays

/-- A change, when the party can reach everything that it names. -/
def change (reach : Reach) (memory : Memory κ β α) : Change κ β α → Option (Reach × Memory κ β α)
  | .create cells => some ({ reach with arrays := memory.arrays.length :: reach.arrays }, memory.allocate cells)
  | .overwrite array cells => if array ∈ reach.arrays then some (reach, memory.overwrite array cells) else none
  | .replace object content =>
    if object ∈ reach.objects ∧ ∀ array ∈ content.members, array ∈ reach.arrays then
      some (reach, memory.replace object content)
    else none

structure Valid (reach : Reach) (memory : Memory κ β α) : Prop where
  objects : ∀ object ∈ reach.objects, object < memory.objects.length
  arrays : ∀ array ∈ reach.arrays, array < memory.arrays.length

structure Secluded (reach : Reach) (memory : Memory κ β α) (object : Nat) : Prop where
  has : memory.Has object
  unreached : object ∉ reach.objects
  arrays : ∀ array ∈ memory.parts object, array ∉ reach.arrays

variable {reach next : Reach} {memory later : Memory κ β α} {object other : Nat}

theorem Valid.extends (valid : reach.Valid memory) (extended : later.Extends memory) : reach.Valid later where
  objects := fun object member => Nat.lt_of_lt_of_le (valid.objects object member) extended.objects.length_le
  arrays := fun array member => Nat.lt_of_lt_of_le (valid.arrays array member) extended.arrays.length_le

theorem Valid.receive (valid : reach.Valid memory) (has : memory.Has object) :
    (reach.receive memory object).Valid memory where
  objects := List.forall_mem_cons.mpr ⟨has.inside, valid.objects⟩
  arrays := List.forall_mem_append.mpr ⟨has.arrays, valid.arrays⟩

theorem Secluded.extends (secluded : reach.Secluded memory object) (extended : later.Extends memory) :
    reach.Secluded later object where
  has := extended.has secluded.has
  unreached := secluded.unreached
  arrays := extended.parts_eq secluded.has.inside ▸ secluded.arrays

theorem Secluded.receive (secluded : reach.Secluded memory object) (different : object ≠ other)
    (apart : ∀ array ∈ memory.parts object, array ∉ memory.parts other) :
    (reach.receive memory other).Secluded memory object where
  has := secluded.has
  unreached := fun member => (List.mem_cons.mp member).elim different secluded.unreached
  arrays := fun array member => List.not_mem_append (apart array member) (secluded.arrays array member)

theorem Valid.secluded_of_made (valid : reach.Valid memory) (made : memory.Made later object) :
    reach.Secluded later object where
  has := made.has
  unreached := fun member => absurd (valid.objects object member) (Nat.not_lt.mpr made.fresh)
  arrays := fun array member reached => absurd (valid.arrays array reached) (Nat.not_lt.mpr (made.parts array member))

theorem Valid.receive_made (valid : reach.Valid memory) (made : memory.Made later object) :
    (reach.receive later object).Valid later := (valid.extends made.extended).receive made.has

/-- A party that is given what was just made can reach nothing else that was there. -/
theorem Secluded.receive_made (secluded : reach.Secluded memory object) (made : memory.Made later other) :
    (reach.receive later other).Secluded later object := by
  refine (secluded.extends made.extended).receive ?_ fun array member fresh => ?_
  · rintro rfl
    exact absurd secluded.has.inside (Nat.not_lt.mpr made.fresh)
  · rw [made.extended.parts_eq secluded.has.inside] at member
    exact absurd (secluded.has.arrays array member) (Nat.not_lt.mpr (made.parts array fresh))

theorem Valid.change (valid : reach.Valid memory) {change : Change κ β α}
    (changed : reach.change memory change = some (next, later)) : next.Valid later := by
  cases change with
  | create cells =>
    cases changed
    have extended := valid.extends (memory.extends_allocate cells)
    refine ⟨extended.objects, List.forall_mem_cons.mpr ⟨?_, extended.arrays⟩⟩
    simp [Memory.allocate]
  | overwrite array cells =>
    simp only [Reach.change, Option.ite_none_right_eq_some] at changed
    cases changed.2
    exact ⟨valid.objects, by simpa [Memory.overwrite] using valid.arrays⟩
  | replace object content =>
    simp only [Reach.change, Option.ite_none_right_eq_some] at changed
    cases changed.2
    exact ⟨by simpa [Memory.replace] using valid.objects, valid.arrays⟩

/-- No change that a party makes is seen in what is secluded from it. -/
theorem Secluded.change (secluded : reach.Secluded memory object) {change : Change κ β α}
    (changed : reach.change memory change = some (next, later)) :
    next.Secluded later object ∧ later.value object = memory.value object := by
  cases change with
  | create cells =>
    cases changed
    have extended := memory.extends_allocate cells
    have still := secluded.extends extended
    refine ⟨⟨still.has, still.unreached, fun array member reached => ?_⟩, extended.value_eq secluded.has⟩
    cases List.mem_cons.mp reached with
    | inl new =>
      rw [extended.parts_eq secluded.has.inside] at member
      exact absurd new (Nat.ne_of_lt (secluded.has.arrays array member))
    | inr old => exact still.arrays array member old
  | overwrite array cells =>
    simp only [Reach.change, Option.ite_none_right_eq_some] at changed
    obtain ⟨reached, changed⟩ := changed
    cases changed
    have apart : array ∉ memory.parts object := fun member => secluded.arrays array member reached
    have size : (memory.overwrite array cells).arrays.length = memory.arrays.length := List.length_set
    have has : (memory.overwrite array cells).Has object := ⟨secluded.has.inside, size ▸ secluded.has.arrays⟩
    exact ⟨⟨has, secluded.unreached, secluded.arrays⟩, Memory.value_overwrite apart cells⟩
  | replace other content =>
    simp only [Reach.change, Option.ite_none_right_eq_some] at changed
    obtain ⟨⟨held, -⟩, changed⟩ := changed
    cases changed
    have different : other ≠ object := fun same => secluded.unreached (same ▸ held)
    have kept : (memory.replace other content).content object = memory.content object :=
      Memory.content_replace_of_ne different content
    have parts : (memory.replace other content).parts object = memory.parts object := congrArg Content.members kept
    refine ⟨⟨⟨by simpa [Memory.replace] using secluded.has.inside, ?_⟩, secluded.unreached, ?_⟩, ?_⟩
    · exact parts ▸ secluded.has.arrays
    · exact parts ▸ secluded.arrays
    · rw [Memory.value, kept]
      rfl

end Reach

end Wotemu.Foundation
