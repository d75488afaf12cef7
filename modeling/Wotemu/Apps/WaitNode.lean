import Mathlib.Algebra.Order.Ring.Rat
import Mathlib.Tactic.Linarith
import Wotemu.Apps.Replicas
import Wotemu.Foundation.Agents
import Wotemu.Foundation.Executions

/-! Waiting until a service can be used.

Each catalogue has a loop that asks it until its answer has the requested
Things or the time is over. The loops take turns, and the wait ends when all of
them have finished or one of them has raised.
-/

set_option autoImplicit false

namespace Wotemu.WaitNode

open Wotemu.Foundation Wotemu.Replicas

abbrev Catalogue := Option Value

/-- `thing_id in catalogue`, where an error is caught. -/
def inCatalogue (catalogue : Value) (thingId : String) : Bool :=
  match catalogue with
  | .dict entries => (Dict.value? entries thingId).isSome
  | .list items => .str thingId ∈ items
  | .str text => thingId.toList <:+: text.toList
  | _ => false

def pingCatalogue (thingIds : List String) (answer : Catalogue) : Bool :=
  match answer with
  | none => false
  | some catalogue => thingIds.all (inCatalogue catalogue)

def catalogueUrl (port : Nat) (host : String) : String := "http://" ++ host ++ ":" ++ toString port

/-- The hosts to wait for: the name itself when its containers are not wanted or not found. -/
def contHosts (swarm : Swarm) (name : String) (findReplicas : Bool) : List String :=
  if findReplicas then match getServiceContainerHostnames swarm name with
    | .ok hosts => hosts
    | .error _ => [name]
  else [name]

def catalogueUrls (swarm : Swarm) (port : Nat) (name : String) (findReplicas : Bool) : List String :=
  (contHosts swarm name findReplicas).map (catalogueUrl port)

inductive PingStage where
  | created
  | pinging (ini : Rat)
  | sleeping (ini : Rat)
  | finished
  | raised
  deriving DecidableEq

/-- What a loop does from one await to the next, each time with a reading of the clock. -/
inductive PingAction where
  | begins (ini now : Rat)
  | pinged (answer : Catalogue) (now : Rat)
  | wakes (now : Rat)

def PingAction.now : PingAction → Rat
  | begins _ now | pinged _ now | wakes now => now

def PingStage.over : PingStage → Prop
  | finished | raised => True
  | _ => False

abbrev Log := List (String × Catalogue)

/-- `_raise_timeout` before the loop goes on. -/
def raiseTimeout (timeout : Option Rat) (ini now : Rat) (next : PingStage) : PingStage :=
  match timeout with
  | none => next
  | some limit => if now - ini ≥ limit then .raised else next

section Loops

variable (thingIds : List String) (timeout : Option Rat)

/-- `_ping_catalogue_timeout` -/
def act (url : String) (action : PingAction) (log : Log) (stage : PingStage) : Option (Log × PingStage) :=
  match action, stage with
  | .begins ini now, .created => some (log, raiseTimeout timeout ini now (.pinging ini))
  | .pinged answer now, .pinging ini => some (log ++ [(url, answer)],
      if pingCatalogue thingIds answer then .finished else raiseTimeout timeout ini now (.sleeping ini))
  | .wakes now, .sleeping ini => some (log, raiseTimeout timeout ini now (.pinging ini))
  | _, _ => none

abbrev WaitState (urls : List String) := Agents (Fin urls.length) Log PingStage

abbrev WaitEvent (urls : List String) := Fin urls.length × PingAction

def start (urls : List String) : WaitState urls := ⟨[], fun _ => .created⟩

def step (urls : List String) : Transition (WaitState urls) (WaitEvent urls) := fun state event =>
  (act thingIds timeout (urls.get event.1) event.2 state.shared (state.stage event.1)).map fun result =>
    state.advance event.1 result.1 result.2

end Loops

/-- `asyncio.gather` returns when every loop has finished. -/
def Returned {urls : List String} (state : WaitState urls) : Prop := ∀ loop, state.stage loop = .finished

/-- It raises as soon as a loop has. -/
def Raised {urls : List String} (state : WaitState urls) : Prop := ∃ loop, state.stage loop = .raised

/-- The catalogue of the container of the task has answered with all requested Things. -/
def Answered (port : Nat) (thingIds : List String) (log : Log) (task : Value) : Prop :=
  ∃ cid, containerId task = .ok (.str cid) ∧ ∃ catalogue,
    (catalogueUrl port (hostname cid), some catalogue) ∈ log ∧
      ∀ thingId ∈ thingIds, inCatalogue catalogue thingId = true

/-- Every loop takes another step until it is over, and the clock passes every time. -/
structure Timely {urls thingIds : List String} {timeout : Option Rat}
    (execution : Execution (step thingIds timeout urls) (start urls)) : Prop where
  fair : ∀ loop, execution.Fair (fun event => event.1 = loop) fun state => (state.stage loop).over
  passes : ∀ bound : Rat, ∃ first, ∀ time, first ≤ time → ∀ event, execution.events time = some event →
    bound ≤ event.2.now

/-- The wait for a service of the stack and its replicas: it does not return before the container of every
listed task has answered, and when one of them never answers, a wait with a timeout raises. -/
structure Awaited (swarm : Swarm) (port : Nat) (stack name : String) : Prop where
  answered : ∀ thingIds timeout events finish,
    Transition.run (step thingIds timeout (catalogueUrls swarm port name true)) (start _) events = some finish →
    Returned finish → ∀ task ∈ listed swarm stack name, Answered port thingIds finish.shared task
  raises : ∀ thingIds limit
    (execution : Execution (step thingIds (some limit) (catalogueUrls swarm port name true)) (start _)),
    Timely execution → ∀ task ∈ listed swarm stack name,
      (∀ time, ¬ Answered port thingIds (execution.states time).shared task) →
      (∃ time, Raised (execution.states time)) ∧ ∀ time, ¬ Returned (execution.states time)

section Specs

variable {thingIds : List String} {timeout : Option Rat} {url : String} {urls : List String}

theorem pingCatalogue_iff {answer : Catalogue} : pingCatalogue thingIds answer = true ↔
    ∃ catalogue, answer = some catalogue ∧ ∀ thingId ∈ thingIds, inCatalogue catalogue thingId = true := by
  cases answer with
  | none => exact iff_of_false Bool.false_ne_true fun ⟨_, same, _⟩ => by cases same
  | some catalogue =>
    rw [pingCatalogue, List.all_eq_true]
    constructor
    · exact fun all => ⟨catalogue, rfl, all⟩
    · rintro ⟨_, same, all⟩
      cases same
      exact all

theorem raiseTimeout_cases (timeout : Option Rat) (ini now : Rat) (next : PingStage) :
    raiseTimeout timeout ini now next = .raised ∨ raiseTimeout timeout ini now next = next := by
  unfold raiseTimeout
  split
  case h_1 => exact .inr rfl
  case h_2 limit =>
    split
    case isTrue => exact .inl rfl
    case isFalse => exact .inr rfl

theorem raiseTimeout_late {limit ini now : Rat} (late : ini + limit ≤ now) (next : PingStage) :
    raiseTimeout (some limit) ini now next = .raised := if_pos (by linarith)

theorem act_cases {action : PingAction} {log after : Log} {stage next : PingStage}
    (acted : act thingIds timeout url action log stage = some (after, next)) :
    (∃ ini now, action = .begins ini now ∧ stage = .created ∧ after = log ∧
      next = raiseTimeout timeout ini now (.pinging ini)) ∨
    (∃ ini answer now, action = .pinged answer now ∧ stage = .pinging ini ∧ after = log ++ [(url, answer)] ∧
      next = if pingCatalogue thingIds answer then .finished else raiseTimeout timeout ini now (.sleeping ini)) ∨
    ∃ ini now, action = .wakes now ∧ stage = .sleeping ini ∧ after = log ∧
      next = raiseTimeout timeout ini now (.pinging ini) := by
  unfold act at acted
  split at acted <;> cases acted
  case h_1 ini now => exact .inl ⟨ini, now, rfl, rfl, rfl, rfl⟩
  case h_2 answer now ini => exact .inr (.inl ⟨ini, answer, now, rfl, rfl, rfl, rfl⟩)
  case h_3 now ini => exact .inr (.inr ⟨ini, now, rfl, rfl, rfl, rfl⟩)

theorem exists_act {stage : PingStage} (going : ¬ stage.over) (log : Log) (answer : Catalogue) (now : Rat) :
    ∃ action, action.now = now ∧ (act thingIds timeout url action log stage).isSome := by
  cases stage with
  | created => exact ⟨.begins now now, rfl, rfl⟩
  | pinging ini => exact ⟨.pinged answer now, rfl, rfl⟩
  | sleeping ini => exact ⟨.wakes now, rfl, rfl⟩
  | finished | raised => exact absurd trivial going

theorem act_finished {action : PingAction} {log after : Log} {stage : PingStage}
    (acted : act thingIds timeout url action log stage = some (after, .finished)) :
    ∃ answer, (url, answer) ∈ after ∧ pingCatalogue thingIds answer = true := by
  have unfinished : ∀ ini now next, next ≠ .finished → .finished ≠ raiseTimeout timeout ini now next := by
    intro ini now next differ same
    obtain raised | goesOn := raiseTimeout_cases timeout ini now next
    · rw [raised] at same
      cases same
    · exact differ (goesOn.symm.trans same.symm)
  obtain ⟨ini, now, -, -, -, next⟩ | ⟨ini, answer, now, -, -, rfl, next⟩ | ⟨ini, now, -, -, -, next⟩ := act_cases acted
  · exact absurd next (unfinished ini now _ nofun)
  · split at next
    case isTrue good => exact ⟨answer, List.mem_append_right _ (List.mem_singleton_self _), good⟩
    case isFalse => exact absurd next (unfinished ini now _ nofun)
  · exact absurd next (unfinished ini now _ nofun)

theorem act_log {action : PingAction} {log after : Log} {stage next : PingStage}
    (acted : act thingIds timeout url action log stage = some (after, next)) : ∀ entry ∈ log, entry ∈ after := by
  obtain ⟨_, _, -, -, rfl, -⟩ | ⟨_, _, _, -, -, rfl, -⟩ | ⟨_, _, -, -, rfl, -⟩ := act_cases acted
  · exact fun _ => id
  · exact fun _ => List.mem_append_left _
  · exact fun _ => id

def Heard (thingIds : List String) (state : WaitState urls) : Prop := ∀ loop, state.stage loop = .finished →
  ∃ answer, (urls.get loop, answer) ∈ state.shared ∧ pingCatalogue thingIds answer = true

theorem step_heard {state next : WaitState urls} {event : WaitEvent urls} (heard : Heard thingIds state)
    (stepped : step thingIds timeout urls state event = some next) : Heard thingIds next := by
  obtain ⟨⟨after, stage⟩, acted, rfl⟩ := Option.map_eq_some_iff.mp stepped
  intro loop finished
  rw [Agents.advance_shared]
  obtain ⟨rfl, rfl⟩ | ⟨-, earlier⟩ := Agents.before_advance (· = PingStage.finished) finished
  · exact act_finished acted
  · obtain ⟨answer, member, good⟩ := heard loop earlier
    exact ⟨answer, act_log acted _ member, good⟩

theorem run_heard {events : List (WaitEvent urls)} {finish : WaitState urls}
    (ran : Transition.run (step thingIds timeout urls) (start urls) events = some finish) : Heard thingIds finish :=
  Transition.run_invariant (fun _ _ _ (_ : True) => step_heard) (fun _ _ => trivial) (fun _ created => by cases created)
    ran

def PingStage.Begun (ini : Rat) (stage : PingStage) : Prop :=
  stage = .pinging ini ∨ stage = .sleeping ini ∨ stage.over

theorem not_begun_created {ini : Rat} : ¬ PingStage.created.Begun ini := by
  rintro (begun | begun | ended)
  · cases begun
  · cases begun
  · cases ended

theorem eq_of_begun_pinging {ini earlier : Rat} (begun : (PingStage.pinging ini).Begun earlier) : earlier = ini := by
  obtain begun | begun | ended := begun
  · cases begun
    rfl
  · cases begun
  · cases ended

theorem eq_of_begun_sleeping {ini earlier : Rat} (begun : (PingStage.sleeping ini).Begun earlier) : earlier = ini := by
  obtain begun | begun | ended := begun
  · cases begun
  · cases begun
    rfl
  · cases ended

theorem raiseTimeout_begun {ini now : Rat} {next : PingStage} (begun : next.Begun ini) :
    (raiseTimeout timeout ini now next).Begun ini := by
  obtain raised | goesOn := raiseTimeout_cases timeout ini now next
  · rw [raised]
    exact .inr (.inr trivial)
  · rwa [goesOn]

theorem act_begun {action : PingAction} {log after : Log} {stage next : PingStage}
    (acted : act thingIds timeout url action log stage = some (after, next)) :
    ∃ ini, next.Begun ini ∧ ∀ earlier, stage.Begun earlier → earlier = ini := by
  obtain ⟨ini, now, -, rfl, -, rfl⟩ | ⟨ini, answer, now, -, rfl, -, rfl⟩ | ⟨ini, now, -, rfl, -, rfl⟩ := act_cases acted
  · exact ⟨ini, raiseTimeout_begun (.inl rfl), fun _ begun => absurd begun not_begun_created⟩
  · refine ⟨ini, ?_, fun _ => eq_of_begun_pinging⟩
    split
    · exact .inr (.inr trivial)
    · exact raiseTimeout_begun (.inr (.inl rfl))
  · exact ⟨ini, raiseTimeout_begun (.inl rfl), fun _ => eq_of_begun_sleeping⟩

theorem step_begun {ini : Rat} {loop : Fin urls.length} (state : WaitState urls) (event : WaitEvent urls)
    (next : WaitState urls) (begun : (state.stage loop).Begun ini)
    (stepped : step thingIds timeout urls state event = some next) : (next.stage loop).Begun ini := by
  obtain ⟨⟨after, stage⟩, acted, rfl⟩ := Option.map_eq_some_iff.mp stepped
  by_cases same : loop = event.1
  · subst same
    obtain ⟨later, begunNext, same⟩ := act_begun acted
    rw [Agents.advance_stage_self, same ini begun]
    exact begunNext
  · rwa [Agents.advance_stage_of_ne _ _ _ _ same]

theorem act_late {ini limit : Rat} {action : PingAction} {log after : Log} {stage next : PingStage}
    (acted : act thingIds (some limit) url action log stage = some (after, next)) (begun : stage.Begun ini)
    (bad : ∀ answer, (url, answer) ∈ after → pingCatalogue thingIds answer = false)
    (late : ini + limit ≤ action.now) : next = .raised := by
  obtain ⟨_, now, rfl, rfl, -, rfl⟩ | ⟨_, answer, now, rfl, rfl, rfl, rfl⟩ | ⟨_, now, rfl, rfl, -, rfl⟩ :=
    act_cases acted
  · exact absurd begun not_begun_created
  · rw [bad answer (List.mem_append_right _ (List.mem_singleton_self _))]
    exact raiseTimeout_late (eq_of_begun_pinging begun ▸ late) _
  · exact raiseTimeout_late (eq_of_begun_sleeping begun ▸ late) _

theorem step_own {state next : WaitState urls} {event : WaitEvent urls} {loop : Fin urls.length}
    (own : event.1 = loop) (stepped : step thingIds timeout urls state event = some next) :
    act thingIds timeout (urls.get loop) event.2 state.shared (state.stage loop) =
      some (next.shared, next.stage loop) := by
  subst own
  obtain ⟨⟨after, stage⟩, acted, rfl⟩ := Option.map_eq_some_iff.mp stepped
  rw [Agents.advance_stage_self, acted]
  rfl

theorem eventually_raised {limit : Rat} {execution : Execution (step thingIds (some limit) urls) (start urls)}
    (timely : Timely execution) (loop : Fin urls.length)
    (bad : ∀ time answer, (urls.get loop, answer) ∈ (execution.states time).shared →
      pingCatalogue thingIds answer = false) : ∃ time, Raised (execution.states time) := by
  by_contra never
  have going : ∀ time, ¬ ((execution.states time).stage loop).over := by
    intro time ended
    obtain ⟨events, ran⟩ := execution.exists_run time
    cases stage : (execution.states time).stage loop with
    | created | pinging | sleeping =>
      rw [stage] at ended
      cases ended
    | finished =>
      obtain ⟨answer, member, good⟩ := run_heard ran loop stage
      rw [bad time answer member] at good
      cases good
    | raised => exact never ⟨time, loop, stage⟩
  -- its first step fixes the beginning of its time
  obtain ⟨first, event, -, own, -, stepped⟩ := (timely.fair loop).exists_step going 0
  obtain ⟨ini, begun, -⟩ := act_begun (step_own own stepped)
  -- and one of its steps comes after the end
  obtain ⟨ending, late⟩ := timely.passes (ini + limit)
  obtain ⟨time, event, later, own, taken, stepped⟩ :=
    (timely.fair loop).exists_step going (max (first + 1) ending)
  have begunLater : ((execution.states time).stage loop).Begun ini :=
    execution.keeps step_begun ((le_max_left _ _).trans later) begun
  have raised := act_late (step_own own stepped) begunLater (bad (time + 1))
    (late time ((le_max_right _ _).trans later) event taken)
  exact never ⟨time + 1, loop, raised⟩

theorem exists_finish (loops : List (Fin urls.length)) (state : WaitState urls) (nodup : loops.Nodup)
    (created : ∀ loop ∈ loops, state.stage loop = .created) : ∃ events finish,
      Transition.run (step [] none urls) state events = some finish ∧ (∀ loop ∈ loops, finish.stage loop = .finished) ∧
      ∀ loop ∉ loops, finish.stage loop = state.stage loop := by
  induction loops generalizing state with
  | nil => exact ⟨[], state, rfl, by simp, fun _ _ => rfl⟩
  | cons loop rest ih =>
    obtain ⟨absent, nodup⟩ := List.nodup_cons.mp nodup
    let begun := state.advance loop state.shared (.pinging 0)
    let done := begun.advance loop (begun.shared ++ [(urls.get loop, some (.dict []))]) .finished
    have begins : step [] none urls state (loop, .begins 0 0) = some begun := by
      rw [step, created loop List.mem_cons_self]
      rfl
    have pinged : step [] none urls begun (loop, .pinged (some (.dict [])) 0) = some done := by
      rw [step, Agents.advance_stage_self]
      rfl
    have others : ∀ other, other ≠ loop → done.stage other = state.stage other := by
      intro other differ
      rw [Agents.advance_stage_of_ne _ _ _ _ differ, Agents.advance_stage_of_ne _ _ _ _ differ]
    have ne : ∀ other ∈ rest, other ≠ loop := fun other member same => absent (same ▸ member)
    obtain ⟨events, finish, ran, finished, kept⟩ := ih done nodup fun other member =>
      (others other (ne other member)).trans (created other (List.mem_cons_of_mem _ member))
    refine ⟨(loop, .begins 0 0) :: (loop, .pinged (some (.dict [])) 0) :: events, finish, ?_, ?_, ?_⟩
    · exact Transition.run_cons.mpr ⟨begun, begins, Transition.run_cons.mpr ⟨done, pinged, ran⟩⟩
    · intro other member
      obtain rfl | later := List.mem_cons.mp member
      · rw [kept other absent]
        exact Agents.advance_stage_self ..
      · exact finished other later
    · intro other outside
      obtain ⟨differ, outside⟩ := not_or.mp (List.mem_cons.not.mp outside)
      rw [kept other outside, others other differ]

theorem exists_returned (urls : List String) : ∃ events finish,
    Transition.run (step [] none urls) (start urls) events = some finish ∧ Returned finish := by
  obtain ⟨events, finish, ran, finished, -⟩ :=
    exists_finish (List.finRange urls.length) (start urls) (List.nodup_finRange _) fun _ _ => rfl
  exact ⟨events, finish, ran, fun loop => finished loop (List.mem_finRange loop)⟩

theorem run_asked {events : List (WaitEvent urls)} {finish : WaitState urls}
    (ran : Transition.run (step thingIds timeout urls) (start urls) events = some finish) :
    ∀ entry ∈ finish.shared, entry.1 ∈ urls := by
  have initially : ∀ entry ∈ (start urls).shared, entry.1 ∈ urls := by simp [start]
  refine @Transition.run_invariant _ _ _ (fun _ => True) (fun state => ∀ entry ∈ state.shared, entry.1 ∈ urls)
    (fun state event next _ asked stepped => ?_) _ _ _ (fun _ _ => trivial) initially ran
  obtain ⟨⟨after, stage⟩, acted, rfl⟩ := Option.map_eq_some_iff.mp stepped
  obtain ⟨_, _, -, -, rfl, -⟩ | ⟨_, answer, _, -, -, rfl, -⟩ | ⟨_, _, -, -, rfl, -⟩ := act_cases acted
  · exact asked
  · intro entry member
    obtain earlier | last := List.mem_append.mp member
    · exact asked entry earlier
    · rw [List.mem_singleton.mp last]
      exact List.get_mem ..
  · exact asked

end Specs

variable {swarm : Swarm} {port : Nat} {stack name : String}

/-- The hosts of the tasks that are looked for, or the name itself when there are none or one of them has no
container. -/
def Targeted (swarm : Swarm) (name host : String) : Prop :=
  (∃ tasks, Searched swarm name tasks ∧ ∃ task ∈ tasks, containerHost task = .ok host) ∨
    (¬ ∃ tasks, Searched swarm name tasks) ∧ host = name

/-- The task has a container, whose host is waited for. -/
def Reachable (swarm : Swarm) (name : String) (task : Value) : Prop :=
  ∃ cid, containerId task = .ok (.str cid) ∧ Targeted swarm name (hostname cid)

theorem mem_contHosts {host : String} : host ∈ contHosts swarm name true ↔ Targeted swarm name host := by
  unfold contHosts
  rw [if_pos rfl]
  cases found : getServiceContainerHostnames swarm name with
  | ok hosts =>
    obtain ⟨tasks, searched, ofTasks⟩ := hostnames_ok found
    have only : ∀ others, Searched swarm name others → others = tasks := fun others other =>
      Except.ok.inj (other.1.symm.trans searched.1)
    constructor
    · intro member
      obtain ⟨task, isTask, isHost⟩ := exists_item_of_forall₂ ofTasks member
      exact .inl ⟨tasks, searched, task, isTask, isHost⟩
    · rintro (⟨others, other, task, isTask, isHost⟩ | ⟨none, -⟩)
      · rw [only others other] at isTask
        obtain ⟨position, isTask⟩ := List.mem_iff_getElem?.mp isTask
        obtain ⟨host', known⟩ := exists_getElem?_of_forall₂ ofTasks isTask
        cases isHost.symm.trans (forall₂_getElem? ofTasks isTask known)
        exact List.mem_of_getElem? known
      · exact absurd ⟨tasks, searched⟩ none
  | error why =>
    have none : ¬ ∃ tasks, Searched swarm name tasks := by
      rintro ⟨tasks, searched⟩
      obtain ⟨hosts, returned⟩ := returns_of_searched searched
      rw [found] at returned
      cases returned
    rw [List.mem_singleton]
    constructor
    · exact fun same => .inr ⟨none, same⟩
    · exact fun targeted => (targeted.resolve_left fun some => none (some.imp fun _ both => both.1)).2

theorem exists_loop (port : Nat) {task : Value} (reachable : Reachable swarm name task) : ∃ cid loop,
    containerId task = .ok (.str cid) ∧ (catalogueUrls swarm port name true).get loop = catalogueUrl port (hostname cid) := by
  obtain ⟨cid, known, targeted⟩ := reachable
  have isUrl : catalogueUrl port (hostname cid) ∈ catalogueUrls swarm port name true :=
    List.mem_map_of_mem (mem_contHosts.mpr targeted)
  obtain ⟨loop, same⟩ := List.get_of_mem isUrl
  exact ⟨cid, loop, known, same⟩

theorem awaited_of_reachable (all : ∀ task ∈ listed swarm stack name, Reachable swarm name task) :
    Awaited swarm port stack name := by
  have answered : ∀ thingIds timeout events finish,
      Transition.run (step thingIds timeout (catalogueUrls swarm port name true)) (start _) events = some finish →
      Returned finish → ∀ task ∈ listed swarm stack name, Answered port thingIds finish.shared task := by
    intro thingIds timeout events finish ran returned task member
    obtain ⟨cid, loop, known, isUrl⟩ := exists_loop port (all task member)
    obtain ⟨answer, heard, good⟩ := run_heard ran loop (returned loop)
    obtain ⟨catalogue, rfl, serves⟩ := pingCatalogue_iff.mp good
    exact ⟨cid, known, catalogue, isUrl ▸ heard, serves⟩
  refine ⟨answered, fun thingIds limit execution timely task member never => ⟨?_, fun time returned => ?_⟩⟩
  · obtain ⟨cid, loop, known, isUrl⟩ := exists_loop port (all task member)
    refine eventually_raised timely loop fun time answer heard => ?_
    by_contra good
    obtain ⟨catalogue, rfl, serves⟩ := pingCatalogue_iff.mp (Bool.not_eq_false _ ▸ good)
    exact never time ⟨cid, known, catalogue, isUrl ▸ heard, serves⟩
  · obtain ⟨events, ran⟩ := execution.exists_run time
    exact never time (answered thingIds _ events _ ran returned task member)

theorem catalogueUrl_inj {first second : String} (same : catalogueUrl port first = catalogueUrl port second) :
    first = second := by
  unfold catalogueUrl at same
  have lists := congrArg String.toList same
  simp only [String.toList_append, List.append_cancel_left_eq, List.append_cancel_right_eq] at lists
  exact String.toList_inj.mp lists

theorem reachable_of_awaited (awaited : Awaited swarm port stack name) {task : Value}
    (member : task ∈ listed swarm stack name) : Reachable swarm name task := by
  obtain ⟨events, finish, ran, returned⟩ := exists_returned (catalogueUrls swarm port name true)
  obtain ⟨cid, known, catalogue, heard, -⟩ := awaited.answered [] none events finish ran returned task member
  obtain ⟨host, isHost, same⟩ := List.mem_map.mp (run_asked ran _ heard)
  exact ⟨cid, known, mem_contHosts.mp (catalogueUrl_inj same ▸ isHost)⟩

/-- The wait for a service keeps its promise exactly when every listed task is reachable. -/
theorem awaited_iff (swarm : Swarm) (port : Nat) (stack name : String) :
    Awaited swarm port stack name ↔ ∀ task ∈ listed swarm stack name, Reachable swarm name task :=
  ⟨fun awaited _ member => reachable_of_awaited awaited member, awaited_of_reachable⟩

/-- When the own task has the label of the stack, and a name that is taken for a network is one, the listed
tasks have to have containers. -/
theorem awaited_iff_of_labelled (read : baseName swarm name = .ok (serviceOf swarm name))
    (labelled : getCurrentStackNamespace swarm = .ok (.str stack)) :
    Awaited swarm port stack name ↔ ∀ task ∈ listed swarm stack name, HasContainer task := by
  rw [awaited_iff]
  constructor
  · exact fun all task member => (all task member).imp fun _ both => both.1
  · intro all task member
    obtain ⟨cid, known⟩ := all task member
    have searched : Searched swarm name (listed swarm stack name) :=
      ⟨sought_eq read labelled, List.ne_nil_of_mem member, all⟩
    exact ⟨cid, known, .inl ⟨_, searched, task, member, containerHost_ok_iff.mpr ⟨cid, known, rfl⟩⟩⟩

/-! A service with one container, and a replica that has none yet. -/

def taskOf (cid : String) : Value :=
  .dict [("Status", .dict [("ContainerStatus", .dict [("ContainerID", .str cid)])]),
    ("Spec", .dict [("ContainerSpec", .dict [("Labels", .dict [(stackNamespace, .str "home")])])])]

def pendingTask : Value := .dict [("Status", .dict [("State", .str "pending")])]

def cameraSwarm : Swarm where
  api := {
    inspectNetwork := fun name => if name = "lan" then .ok () else .error .notFound
    tasks := .ok [taskOf "0a1b2c3d4e5f67"]
    serviceTasks := fun name => if name = "home_camera" then .ok [taskOf "f0e1d2c3b4a596", pendingTask]
      else .error .notFound }
  currentContainerId := .ok "0a1b2c3d4e5f67"

theorem pending_replica_not_awaited : ¬ Awaited cameraSwarm 9090 "home" "camera.lan" := by
  intro awaited
  have member : pendingTask ∈ listed cameraSwarm "home" "camera.lan" := by decide +kernel
  obtain ⟨cid, known, -⟩ := reachable_of_awaited awaited member
  have missing : containerId pendingTask = .error (.keyError "ContainerStatus") := by decide +kernel
  rw [missing] at known
  cases known

end Wotemu.WaitNode
