import Mathlib.Data.List.Forall2
import ServerTrials.Proofs.Trial.Visits
import ServerTrials.Trial.Run

/-!
The calls that a run makes on the service.

An observed service does as the one below it and notes every call that it gets, so the calls noted are those
that were made, whatever the service does. For each case these are a start and, after a start that was
answered with yes, a stop (`Block`): this holds of the execution of one case, and runs put the blocks of
their cases in a row.
-/

namespace ServerTrials.Trial

/-- A call that a service gets, with its answer. -/
inductive Call where
  | start (options : OptionMap) (answer : Except ServiceError Bool)
  | stop (answer : Except ServiceError Unit)

namespace Call

/-- The service started. -/
def isLaunch : Call → Bool
  | .start _ (.ok true) => true
  | _ => false

/-- The service was told to stop. -/
def isStop : Call → Bool
  | .start _ _ => false
  | .stop _ => true

theorem countP_isLaunch_of_ne {o : OptionMap} {answer : Except ServiceError Bool}
    (not_started : answer ≠ .ok true) : [start o answer].countP isLaunch = 0 := by
  rcases answer with e | (_ | _)
  · rfl
  · rfl
  · contradiction

end Call

/-- The calls for one case: it is started with the options of the case, and stopped at once iff it
started. -/
inductive Block (c : Case) : List Call → Prop where
  | declined {answer : Except ServiceError Bool} (not_started : answer ≠ .ok true) :
    Block c [.start c.config answer]
  | started (answer : Except ServiceError Unit) :
    Block c [.start c.config (.ok true), .stop answer]

theorem Block.countP_isStop {c : Case} {block : List Call} (h : Block c block) :
    block.countP Call.isStop = block.countP Call.isLaunch := by
  cases h with
  | declined not_started => exact (Call.countP_isLaunch_of_ne not_started).symm
  | started answer => rfl

namespace Service

variable {σ : Type}

/-- The service that notes the calls. -/
def observed (service : Service σ) : Service (σ × List Call) where
  start o s :=
    let (answer, s') := service.start o s.1
    (answer, s', s.2 ++ [.start o answer])
  stop s :=
    let (answer, s') := service.stop s.1
    (answer, s', s.2 ++ [.stop answer])
  startLog o s := service.startLog o s.1
  stopLog s := service.stopLog s.1

/-- From one state to another the service gets these calls, and answers them so. -/
inductive Answers (service : Service σ) : σ → List Call → σ → Prop where
  | done (s : σ) : Answers service s [] s
  | start {o : OptionMap} {s s' : σ} {calls : List Call}
    (later : Answers service (service.start o s).2 calls s') :
    Answers service s (.start o (service.start o s).1 :: calls) s'
  | stop {s s' : σ} {calls : List Call} (later : Answers service (service.stop s).2 calls s') :
    Answers service s (.stop (service.stop s).1 :: calls) s'

theorem Answers.append {service : Service σ} {s s' s'' : σ} {calls later : List Call}
    (h : Answers service s calls s') (h' : Answers service s' later s'') :
    Answers service s (calls ++ later) s'' := by
  induction h with
  | done => exact h'
  | start _ ih => exact .start (ih h')
  | stop _ ih => exact .stop (ih h')

/-- A run over these cases makes these calls, a block for each case, and its report counts them. -/
structure Makes (service : Service σ) (cases : List Case) (before after : Report × σ)
    (blocks : List (List Call)) : Prop where
  inTurn : List.Forall₂ Block cases blocks
  answers : Answers service before.2 blocks.flatten after.2
  total : after.1.total = before.1.total + cases.length
  accepted : after.1.accepted = before.1.accepted + blocks.flatten.countP Call.isLaunch
  stopCalls : after.1.stopCalls = before.1.stopCalls + blocks.flatten.countP Call.isStop

namespace Makes

theorem refl (service : Service σ) (acc : Report × σ) : Makes service [] acc acc [] :=
  ⟨.nil, .done acc.2, rfl, rfl, rfl⟩

theorem append {service : Service σ} {cases later : List Case} {acc acc' acc'' : Report × σ}
    {blocks more : List (List Call)} (h : Makes service cases acc acc' blocks)
    (h' : Makes service later acc' acc'' more) :
    Makes service (cases ++ later) acc acc'' (blocks ++ more) where
  inTurn := List.rel_append h.inTurn h'.inTurn
  answers := List.flatten_append ▸ h.answers.append h'.answers
  total := by rw [h'.total, h.total, List.length_append, Nat.add_assoc]
  accepted := by
    rw [h'.accepted, h.accepted, List.flatten_append, List.countP_append, Nat.add_assoc]
  stopCalls := by
    rw [h'.stopCalls, h.stopCalls, List.flatten_append, List.countP_append, Nat.add_assoc]

/-- A run stops the service as often as it started. -/
theorem countP_isStop {service : Service σ} {cases : List Case} {acc acc' : Report × σ}
    {blocks : List (List Call)} (h : Makes service cases acc acc' blocks) :
    blocks.flatten.countP Call.isStop = blocks.flatten.countP Call.isLaunch := by
  have inTurn := h.inTurn
  clear h
  induction inTurn with
  | nil => rfl
  | cons first _ ih =>
    rw [List.flatten_cons, List.countP_append, List.countP_append, first.countP_isStop, ih]

end Makes

/-! ### One case -/

theorem execute_of_declined {service : Service σ} {c : Case} {s s' : σ}
    {answer : Except ServiceError Bool} (h : service.start c.config s = (answer, s'))
    (not_started : answer ≠ .ok true) :
    service.execute c s = (.ofCalls c (.ofAnswer answer) none, s') ∧ Observed.ofAnswer answer ≠ .accepted := by
  rw [execute, h]
  rcases answer with e | (_ | _)
  · exact ⟨rfl, nofun⟩
  · exact ⟨rfl, nofun⟩
  · contradiction

theorem execute_of_started {service : Service σ} {c : Case} {s s' : σ}
    (h : service.start c.config s = (.ok true, s')) : service.execute c s
      = (.ofCalls c .accepted (some (service.stop s').1), (service.stop s').2) := by
  rw [execute, h]
  rfl

/-- The step of a run is one block of calls; noting them changes nothing else. -/
theorem step_observed (service : Service σ) (acc : Report × σ) (c : Case) :
    ∃ block, Makes service [c] acc (service.step acc c) [block] ∧
      ∀ calls, service.observed.step (acc.1, acc.2, calls) c
        = ((service.step acc c).1, (service.step acc c).2, calls ++ block) := by
  rcases h : service.start c.config acc.2 with ⟨answer, s'⟩
  have noted : ∀ calls, service.observed.start c.config (acc.2, calls)
      = (answer, s', calls ++ [.start c.config answer]) := fun calls => by simp only [observed, h]
  have answered : Answers service acc.2 [.start c.config answer] s' := by
    have start : Answers service acc.2 [.start c.config (service.start c.config acc.2).1]
        (service.start c.config acc.2).2 := .start (.done _)
    rwa [h] at start
  by_cases started : answer = .ok true
  · subst started
    have executed := execute_of_started h
    refine ⟨[.start c.config (.ok true), .stop (service.stop s').1], ?_, fun calls => ?_⟩
    · rw [step, executed]
      exact ⟨.cons (.started _) .nil, answered.append (.stop (.done _)), rfl, rfl, rfl⟩
    · simp only [step, executed, execute_of_started (noted calls)]
      simp [observed]
  · obtain ⟨executed, rejected⟩ := execute_of_declined h started
    refine ⟨[.start c.config answer], ?_, fun calls => ?_⟩
    · rw [step, executed]
      refine ⟨.cons (.declined started) .nil, answered, rfl, ?_, rfl⟩
      change acc.1.accepted + (if Observed.ofAnswer answer = .accepted then 1 else 0) = _
      rw [if_neg rejected, List.flatten_singleton, Call.countP_isLaunch_of_ne started]
    · rw [step, step, executed, (execute_of_declined (noted calls) started).1]

/-! ### The run -/

/-- Runs note a block of calls for each case, from whatever report and state they go on. -/
theorem foldl_step_observed (service : Service σ) : ∀ (cases : List Case) (acc : Report × σ),
    ∃ blocks, Makes service cases acc (cases.foldl service.step acc) blocks ∧
      ∀ calls, cases.foldl service.observed.step (acc.1, acc.2, calls)
        = ((cases.foldl service.step acc).1, (cases.foldl service.step acc).2, calls ++ blocks.flatten)
  | [], acc => ⟨[], .refl service acc, fun calls => by simp⟩
  | c :: cases, acc => by
    obtain ⟨block, first, noted⟩ := step_observed service acc c
    obtain ⟨blocks, rest, noted'⟩ := foldl_step_observed service cases (service.step acc c)
    refine ⟨block :: blocks, first.append rest, fun calls => ?_⟩
    rw [List.foldl_cons, noted, noted', List.foldl_cons, List.flatten_cons, List.append_assoc]

/-- For every case, in the order in which cases are generated, a run starts the service with the options of
the case and stops it at once iff it started. It makes no other calls and goes on to the last case, whatever
is answered, and the report counts the stops, which are as many as the starts that were answered with yes. -/
theorem calls_of_run (service : Service σ) (t : Table) (s : σ) :
    ∃ blocks : List (List Call), List.Forall₂ Block t.cases blocks ∧
      List.Forall₂ Block t.visited blocks ∧
      t.generate service.observed.step ({}, s, [])
        = (blocks.length, (service.run t s).1, (service.run t s).2, blocks.flatten) ∧
      service.observed.run t (s, [])
        = ((service.run t s).1, (service.run t s).2, blocks.flatten) ∧
      Answers service s blocks.flatten (service.run t s).2 ∧
      (service.run t s).1.total = t.cases.length ∧
      (service.run t s).1.stopCalls = (service.run t s).1.accepted ∧
      (service.run t s).1.stopCalls = blocks.flatten.countP Call.isStop ∧
      (service.run t s).1.accepted = blocks.flatten.countP Call.isLaunch := by
  obtain ⟨blocks, makes, noted⟩ := foldl_step_observed service t.cases ({}, s)
  have stops : (service.run t s).1.stopCalls = blocks.flatten.countP Call.isStop :=
    makes.stopCalls.trans (Nat.zero_add _)
  have launches : (service.run t s).1.accepted = blocks.flatten.countP Call.isLaunch :=
    makes.accepted.trans (Nat.zero_add _)
  refine ⟨blocks, makes.inTurn, t.visited_eq ▸ makes.inTurn, ?_, noted [], makes.answers,
    makes.total.trans (Nat.zero_add _), ?_, stops, launches⟩
  · rw [t.generate_eq, makes.inTurn.length_eq]
    exact congrArg _ (noted [])
  · rw [stops, launches, makes.countP_isStop]

end Service
end ServerTrials.Trial
