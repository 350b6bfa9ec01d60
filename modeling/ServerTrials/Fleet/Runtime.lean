import ServerTrials.Fleet.Error

/-!
Probes as tasks that go on side by side.

A spawned task has three moments: it begins, it ends, and it is handed over. Whoever waits for tasks lets
them go on, one moment after another, until one of them is handed over. Which task goes on next is up to the
runtime, and so are the numbers of the tasks; it only has to pick one of those that are left, and to give no
two the same number.
-/

namespace ServerTrials.Fleet

/-! ### Probes -/

/-- A probe to be made: of which instance, against which host and port. -/
structure Probing where
  index : Nat
  host : String
  port : UInt16
  deriving DecidableEq, Repr

/-- How a probe ends: it passes or fails by itself, the time limit cuts it off, or it breaks off. -/
inductive Ending where
  | passed (stdout : String)
  | failed (error : ProbeError)
  | late
  | broken (detail : String)
  deriving DecidableEq, Repr

namespace Ending

/-- What an ending counts as, under a time limit in milliseconds. -/
def result (limit : Nat) : Ending → Except ProbeError String
  | .passed stdout => .ok stdout
  | .failed e => .error e
  | .late => .error (.timeout limit)
  | .broken detail => .error (.aborted detail)

/-- Whether the probe came to its end by itself. -/
def byItself : Ending → Bool
  | .passed _ | .failed _ => true
  | .late | .broken _ => false

end Ending

/-- How each probe ends. -/
abbrev Prober := Probing → Ending

/-! ### Tasks -/

/-- A probe that was spawned, under the number that the runtime gave it. -/
structure Task where
  number : Nat
  probing : Probing
  deriving DecidableEq, Repr

/-- The task of that number. -/
def task? (tasks : List Task) (number : Nat) : Option Task := tasks.find? (·.number == number)

/-- How far a task has come: it has yet to begin, its probe goes on, or it has ended. -/
inductive Stage where
  | spawned
  | going
  | ended
  deriving DecidableEq, Repr

/-- A task that is yet to be handed over, and how far it has come. -/
structure Active where
  task : Task
  stage : Stage
  deriving DecidableEq, Repr

/-- A task that has yet to begin. -/
def Task.spawned (t : Task) : Active := ⟨t, .spawned⟩

/-- A moment of a task: it begins, it ends, or it is handed over. -/
inductive Moment where
  | begun (task : Task)
  | ended (task : Task)
  | joined (task : Task)
  deriving DecidableEq, Repr

namespace Active

/-- The next moment of a task. -/
def moment (a : Active) : Moment :=
  match a.stage with
  | .spawned => .begun a.task
  | .going => .ended a.task
  | .ended => .joined a.task

/-- The task after its next moment, unless this hands it over. -/
def next? (a : Active) : Option Active :=
  match a.stage with
  | .spawned => some ⟨a.task, .going⟩
  | .going => some ⟨a.task, .ended⟩
  | .ended => none

/-- All moments that a task has before it. -/
def rest (a : Active) : List Moment :=
  match a.stage with
  | .spawned => [.begun a.task, .ended a.task, .joined a.task]
  | .going => [.ended a.task, .joined a.task]
  | .ended => [.joined a.task]

theorem rest_eq (a : Active) : a.rest = a.moment :: (a.next?.map rest).getD [] := by
  obtain ⟨t, stage⟩ := a
  cases stage <;> rfl

end Active

/-- The tasks after the next moment of the one with that number. -/
def advance (tasks : List Active) (number : Nat) : List Active :=
  tasks.filterMap fun a => if a.task.number = number then a.next? else some a

/-- How many moments tasks have before them. -/
def momentsLeft : List Active → Nat
  | [] => 0
  | a :: tasks => a.rest.length + momentsLeft tasks

theorem momentsLeft_advance_cons (a : Active) (tasks : List Active) (number : Nat) :
    momentsLeft (advance (a :: tasks) number) + (if a.task.number = number then 1 else 0) =
      a.rest.length + momentsLeft (advance tasks number) := by
  simp only [advance, List.filterMap_cons]
  by_cases own : a.task.number = number
  · rw [if_pos own, if_pos own, a.rest_eq, List.length_cons]
    cases a.next? with
    | none => simp [Nat.add_comm]
    | some b => simp only [momentsLeft, Option.map_some, Option.getD_some]; omega
  · simp only [if_neg own, momentsLeft, Nat.add_zero]

theorem momentsLeft_advance_le (number : Nat) : ∀ tasks : List Active,
    momentsLeft (advance tasks number) ≤ momentsLeft tasks
  | [] => Nat.le_refl 0
  | a :: tasks => by
    have first := momentsLeft_advance_cons a tasks number
    have others := momentsLeft_advance_le number tasks
    rw [momentsLeft]
    omega

/-- A moment of one of the tasks brings them nearer to their end. -/
theorem momentsLeft_advance_lt {a : Active} : ∀ {tasks : List Active}, a ∈ tasks →
    momentsLeft (advance tasks a.task.number) < momentsLeft tasks
  | b :: tasks, h => by
    have first := momentsLeft_advance_cons b tasks a.task.number
    rw [momentsLeft]
    rcases List.mem_cons.1 h with rfl | h
    · have others := momentsLeft_advance_le a.task.number tasks
      rw [if_pos rfl] at first
      omega
    · have others := momentsLeft_advance_lt h
      omega

/-! ### Runtimes -/

/-- A runtime: the number of the `n`-th task to be spawned, and which of the tasks that are left goes on
next. -/
structure Runtime where
  number : Nat → Nat
  next : (tasks : List Active) → tasks ≠ [] → Active
  /-- No two tasks get the same number. -/
  number_inj : ∀ m n, number m = number n → m = n
  /-- It is one of the tasks that are left. -/
  next_mem : ∀ tasks h, next tasks h ∈ tasks

/-- What happens until a task is handed over: what the tasks do in the meantime, the task that is handed
over, and those that are left. -/
structure Joined where
  meanwhile : List Moment
  task : Task
  left : List Active

/-- The same after one more moment. -/
def Joined.after (m : Moment) (j : Joined) : Joined := { j with meanwhile := m :: j.meanwhile }

namespace Runtime

/-- Spawns a task for each probe. -/
def spawn (rt : Runtime) (ps : List Probing) : List Task := ps.mapIdx fun n p => ⟨rt.number n, p⟩

/-- Lets tasks go on until one of them is handed over; there is none iff no task is left. -/
@[semireducible] -- so that a run on given instances computes
def joinNext? (rt : Runtime) (tasks : List Active) : Option Joined :=
  if h : tasks = [] then none
  else
    let a := rt.next tasks h
    have := momentsLeft_advance_lt (rt.next_mem tasks h)
    let left := advance tasks a.task.number
    if a.stage = .ended then some ⟨[], a.task, left⟩ else (rt.joinNext? left).map (.after a.moment)
termination_by momentsLeft tasks

/-- Less is left after a task was handed over than before. -/
theorem momentsLeft_lt_of_joinNext? (rt : Runtime) (tasks : List Active) :
    ∀ j, rt.joinNext? tasks = some j → momentsLeft j.left < momentsLeft tasks := by
  fun_induction rt.joinNext? tasks with
  | case1 => exact fun j found => nomatch found
  | case2 tasks h a less left =>
    intro j found
    obtain rfl := Option.some.inj found
    exact less
  | case3 tasks h a less left _ ih =>
    intro j found
    obtain ⟨later, waited, rfl⟩ := Option.map_eq_some_iff.1 found
    exact Nat.lt_trans (ih later waited) less

/-- The runtime that numbers the tasks in their order, and lets the first task of the least rank go on. -/
def ranked (rank : Active → Nat) : Runtime where
  number := id
  next tasks h := tasks.minOn rank h
  number_inj _ _ h := h
  next_mem _ _ := List.minOn_mem

/-- All tasks begin before the first one ends, in the order in which they were spawned. -/
def together : Runtime :=
  .ranked fun a =>
    match a.stage with
    | .spawned => 0
    | .ended => 1
    | .going => 2

end Runtime

end ServerTrials.Fleet
