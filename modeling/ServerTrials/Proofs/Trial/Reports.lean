import ServerTrials.Proofs.Trial.Calls
import ServerTrials.Proofs.Trial.Tables
import ServerTrials.Trial.Scripted

/-!
The report of a run is the account of its cases.

A run hands each case to the service when the walk comes to it and enters the outcome in the report at
once. The same report is the tally of a list of outcomes, those of the cases executed one after another.
An `Attempt` is a case with the state in which it meets the service; whether it passes is said by the
answers that it gets there (`Attempt.Passes`), and the entries of the report follow from this.
-/

namespace ServerTrials.Trial

/-! ### The outcome of one case -/

namespace Outcome

/-- A case that passed is not kept, and one that failed is. -/
theorem payload_ofCalls (c : Case) (observed : Observed) (stop : Option (Except ServiceError Unit)) :
    (ofCalls c observed stop).payload
      = if (ofCalls c observed stop).matched then none else some c := rfl

/-- There is a reason for a failure iff the case failed. -/
theorem failure?_ofCalls_eq_none_iff {c : Case} {observed : Observed}
    {stop : Option (Except ServiceError Unit)} :
    (ofCalls c observed stop).failure? = none ↔ (ofCalls c observed stop).matched = true := by
  rw [failure?, ofCalls]
  cases observed <;> cases c.expected <;> simp [Observed.meets]

end Outcome

/-- A case put to a service that is in some state. -/
structure Attempt (σ : Type) where
  subject : Case
  state : σ

namespace Attempt

variable {σ : Type} (service : Service σ) (a : Attempt σ)

/-- The answer to the start. -/
def answer : Except ServiceError Bool := (service.start a.subject.config a.state).1

/-- The answer to a stop right after the start. -/
def stopAnswer : Except ServiceError Unit :=
  (service.stop (service.start a.subject.config a.state).2).1

/-- What becomes of the case. -/
def outcome : Outcome := (service.execute a.subject a.state).1

/-- The service starts, as expected, and stops again; or it does not start, as expected. -/
def Passes : Prop :=
  (a.answer service = .ok true ∧ a.subject.expected = .accept ∧ a.stopAnswer service = .ok ()) ∨
    (a.answer service ≠ .ok true ∧ a.subject.expected = .reject)

variable {service a}

theorem outcome_of_started (h : a.answer service = .ok true) :
    a.outcome service = .ofCalls a.subject .accepted (some (a.stopAnswer service)) := by
  have started : service.start a.subject.config a.state
      = (.ok true, (service.start a.subject.config a.state).2) := Prod.ext h rfl
  rw [outcome, Service.execute_of_started started, stopAnswer]

theorem outcome_of_declined (h : a.answer service ≠ .ok true) :
    ∃ reason, a.outcome service = .ofCalls a.subject (.rejected reason) none := by
  obtain ⟨executed, rejected⟩ := Service.execute_of_declined (Prod.eta _).symm h
  rw [outcome, executed]
  cases observed : Observed.ofAnswer (service.start a.subject.config a.state).1 with
  | accepted => exact absurd observed rejected
  | rejected reason => exact ⟨reason, rfl⟩

/-- An outcome is made of the calls for its case. -/
theorem exists_ofCalls (service : Service σ) (a : Attempt σ) :
    ∃ observed stop, a.outcome service = .ofCalls a.subject observed stop := by
  by_cases h : a.answer service = .ok true
  · exact ⟨_, _, outcome_of_started h⟩
  · obtain ⟨reason, declined⟩ := outcome_of_declined h
    exact ⟨_, _, declined⟩

theorem errorText?_eq_none_iff {stop : Except ServiceError Unit} :
    Outcome.errorText? stop = none ↔ stop = .ok () := by
  cases stop <;> simp [Outcome.errorText?]

/-- An outcome is marked as matched iff the case passes. -/
theorem matched_iff : (a.outcome service).matched = true ↔ a.Passes service := by
  by_cases h : a.answer service = .ok true
  · rw [outcome_of_started h, Passes]
    cases expected : a.subject.expected <;>
      simp [Outcome.ofCalls, Observed.meets, errorText?_eq_none_iff, expected, h]
  · obtain ⟨reason, declined⟩ := outcome_of_declined h
    rw [declined, Passes]
    cases expected : a.subject.expected <;> simp [Outcome.ofCalls, Observed.meets, expected, h]

instance : Decidable (a.Passes service) := decidable_of_iff _ matched_iff

theorem expected_outcome : (a.outcome service).expected = a.subject.expected := by
  obtain ⟨observed, stop, h⟩ := a.exists_ofCalls service
  rw [h]; rfl

theorem ordinal_outcome : (a.outcome service).ordinal = a.subject.ordinal := by
  obtain ⟨observed, stop, h⟩ := a.exists_ofCalls service
  rw [h]; rfl

theorem payload_outcome :
    (a.outcome service).payload = if a.Passes service then none else some a.subject := by
  obtain ⟨observed, stop, h⟩ := a.exists_ofCalls service
  simp only [← matched_iff, h, Outcome.payload_ofCalls]

theorem failure?_outcome_eq_none_iff : (a.outcome service).failure? = none ↔ a.Passes service := by
  obtain ⟨observed, stop, h⟩ := a.exists_ofCalls service
  rw [← matched_iff, h, Outcome.failure?_ofCalls_eq_none_iff]

end Attempt

/-! ### Cases one after another -/

/-- The report that cases and their outcomes add up to. -/
def Report.tally (cases : List Case) (outcomes : List Outcome) : Report where
  total := outcomes.length
  passed := outcomes.countP (·.matched)
  accepted := outcomes.countP (·.observed = .accepted)
  rejected := outcomes.countP (·.observed ≠ .accepted)
  expectedAccept := cases.countP (·.expected = .accept)
  withSkips := cases.countP (·.skips ≠ [])
  stopCalls := outcomes.countP (·.stopped)
  failures := outcomes.filter (!·.matched)

namespace Report

variable (cases : List Case) (outcomes : List Outcome)

@[simp] theorem total_tally : (tally cases outcomes).total = outcomes.length := rfl

@[simp] theorem passed_tally : (tally cases outcomes).passed = outcomes.countP (·.matched) := rfl

@[simp] theorem accepted_tally :
    (tally cases outcomes).accepted = outcomes.countP (·.observed = .accepted) := rfl

@[simp] theorem rejected_tally :
    (tally cases outcomes).rejected = outcomes.countP (·.observed ≠ .accepted) := rfl

@[simp] theorem expectedAccept_tally :
    (tally cases outcomes).expectedAccept = cases.countP (·.expected = .accept) := rfl

@[simp] theorem stopCalls_tally : (tally cases outcomes).stopCalls = outcomes.countP (·.stopped) := rfl

@[simp] theorem failures_tally : (tally cases outcomes).failures = outcomes.filter (!·.matched) := rfl

/-- Recording an outcome is adding it to the tally. -/
theorem record_tally {c : Case} {o : Outcome} (same : o.expected = c.expected) :
    (tally cases outcomes).record o (!c.skips.isEmpty) = tally (cases ++ [c]) (outcomes ++ [o]) := by
  rw [record, tally, tally]
  simp only [List.length_append, List.countP_append, List.countP_singleton, List.filter_append, same,
    List.length_singleton, Report.mk.injEq, true_and, decide_eq_true_iff, Bool.not_eq_true',
    List.isEmpty_eq_false_iff, ne_eq, ite_not]
  cases matched : o.matched <;> simp [matched]

/-- Of all outcomes some matched, and the others are kept. -/
theorem passed_add_failures_tally :
    (tally cases outcomes).passed + (tally cases outcomes).failures.length
      = (tally cases outcomes).total := by
  rw [passed_tally, failures_tally, total_tally, ← List.countP_eq_length_filter,
    List.length_eq_countP_add_countP (·.matched)]
  simp

theorem accepted_add_rejected_tally :
    (tally cases outcomes).accepted + (tally cases outcomes).rejected
      = (tally cases outcomes).total := by
  rw [accepted_tally, rejected_tally, total_tally,
    List.length_eq_countP_add_countP (·.observed = .accepted)]
  simp

end Report

/-- Of all cases some are to be accepted, and the others are to be rejected. -/
theorem countP_accept_add_countP_reject (cases : List Case) :
    cases.countP (·.expected = .accept) + cases.countP (·.expected = .reject) = cases.length := by
  rw [List.length_eq_countP_add_countP (·.expected = .accept)]
  exact congrArg _ (List.countP_congr fun c _ => by cases c.expected <;> simp)

namespace Service

variable {σ : Type}

theorem executeAll_cons (service : Service σ) (c : Case) (cases : List Case) (s : σ) :
    service.executeAll (c :: cases) s
      = ((service.execute c s).1 :: (service.executeAll cases (service.execute c s).2).1,
          (service.executeAll cases (service.execute c s).2).2) := rfl

/-- The attempts at cases one after another: each meets the service in the state that the one before it
left. -/
def attempts (service : Service σ) : List Case → σ → List (Attempt σ)
  | [], _ => []
  | c :: cs, s => ⟨c, s⟩ :: service.attempts cs (service.execute c s).2

theorem map_subject_attempts (service : Service σ) : ∀ (cases : List Case) (s : σ),
    (service.attempts cases s).map (·.subject) = cases
  | [], _ => rfl
  | c :: cases, s => by rw [attempts, List.map_cons, map_subject_attempts]

theorem map_outcome_attempts (service : Service σ) : ∀ (cases : List Case) (s : σ),
    (service.attempts cases s).map (·.outcome service) = (service.executeAll cases s).1
  | [], _ => rfl
  | c :: cases, s => by rw [attempts, List.map_cons, map_outcome_attempts, executeAll_cons, Attempt.outcome]

theorem step_tally (service : Service σ) (cases : List Case) (outcomes : List Outcome) (s : σ) (c : Case) :
    service.step (.tally cases outcomes, s) c
      = (.tally (cases ++ [c]) (outcomes ++ [(service.execute c s).1]), (service.execute c s).2) := by
  have same : (service.execute c s).1.expected = c.expected := Attempt.expected_outcome (a := ⟨c, s⟩)
  rw [← Report.record_tally cases outcomes same]
  rfl

/-- A run that goes on from a tally ends with the tally of the outcomes before and after. -/
theorem foldl_step_tally (service : Service σ) :
    ∀ (later cases : List Case) (outcomes : List Outcome) (s : σ),
      later.foldl service.step (.tally cases outcomes, s)
        = (.tally (cases ++ later) (outcomes ++ (service.executeAll later s).1),
            (service.executeAll later s).2)
  | [], cases, outcomes, s => by simp [executeAll]
  | c :: later, cases, outcomes, s => by
    rw [List.foldl_cons, step_tally, foldl_step_tally service later, executeAll_cons]
    simp only [List.append_assoc, List.singleton_append]

/-- A run reports the tally of the outcomes of its cases, executed one by one. -/
theorem run_eq_tally (service : Service σ) (t : Table) (s : σ) :
    service.run t s
      = (.tally t.cases (service.executeAll t.cases s).1, (service.executeAll t.cases s).2) :=
  foldl_step_tally service t.cases [] [] s

theorem length_executeAll (service : Service σ) (cases : List Case) (s : σ) :
    (service.executeAll cases s).1.length = cases.length := by
  rw [← map_outcome_attempts, List.length_map, ← List.length_map (·.subject), map_subject_attempts]

/-- The outcomes that did not match are those of the attempts that do not pass. -/
theorem filter_executeAll (service : Service σ) (cases : List Case) (s : σ) :
    (service.executeAll cases s).1.filter (!·.matched)
      = ((service.attempts cases s).filter fun a => ¬ a.Passes service).map (·.outcome service) := by
  rw [← map_outcome_attempts, List.filter_map]
  refine congrArg _ (List.filter_congr fun a _ => ?_)
  rw [Function.comp_apply, Bool.eq_iff_iff, decide_eq_true_iff, ← Attempt.matched_iff]
  simp

/-! ### The account -/

/-- The report accounts for these cases, put to the service one after another from that state on. -/
structure AccountsFor (service : Service σ) (cases : List Case) (s : σ) (r : Report) : Prop where
  total : r.total = cases.length
  passed : r.passed + r.failures.length = r.total
  observed : r.accepted + r.rejected = r.total
  expectedAccept : r.expectedAccept = cases.countP (·.expected = .accept)
  withSkips : r.withSkips = cases.countP (·.skips ≠ [])
  failures : r.failures
    = ((service.attempts cases s).filter fun a => ¬ a.Passes service).map (·.outcome service)
  isSuccess : r.isSuccess = true ↔ ∀ a ∈ service.attempts cases s, a.Passes service

theorem accountsFor_tally (service : Service σ) (cases : List Case) (s : σ) :
    service.AccountsFor cases s (.tally cases (service.executeAll cases s).1) where
  total := service.length_executeAll cases s
  passed := Report.passed_add_failures_tally _ _
  observed := Report.accepted_add_rejected_tally _ _
  expectedAccept := rfl
  withSkips := rfl
  failures := service.filter_executeAll cases s
  isSuccess := by
    rw [Report.isSuccess, Report.failures_tally, filter_executeAll, List.isEmpty_iff,
      List.map_eq_nil_iff, List.filter_eq_nil_iff]
    simp

theorem accountsFor_run (service : Service σ) (t : Table) (s : σ) :
    service.AccountsFor t.cases s (service.run t s).1 := by
  rw [run_eq_tally]
  exact service.accountsFor_tally t.cases s

/-- The report of a run loses nothing and invents nothing. It is the same whether the cases are executed as
they are generated, or listed first and executed one by one. It accounts for every case of the table in the
state in which the case met the service, and the failures stand in rising order. A case that failed is kept
as a whole and with a reason; one that passed is not kept, and there is no reason. -/
theorem report_of_run (service : Service σ) (t : Table) (s : σ) :
    t.generate service.step ({}, s) = (t.cases.length, service.run t s) ∧
    service.run t s
      = (.tally t.cases (service.executeAll t.cases s).1, (service.executeAll t.cases s).2) ∧
    service.AccountsFor t.cases s (service.run t s).1 ∧
    (service.run t s).1.failures.Pairwise (fun o p => o.ordinal < p.ordinal) ∧
    (service.attempts t.cases s).map (·.subject) = t.cases ∧
    ∀ a ∈ service.attempts t.cases s, (a.outcome service).ordinal = a.subject.ordinal ∧
      (¬ a.Passes service →
        (a.outcome service).payload = some a.subject ∧ (a.outcome service).failure? ≠ none) ∧
      (a.Passes service →
        (a.outcome service).payload = none ∧ (a.outcome service).failure? = none) := by
  have subjects := service.map_subject_attempts t.cases s
  have account := service.accountsFor_run t s
  refine ⟨t.generate_eq _ _, service.run_eq_tally t s, account, ?_, subjects, fun a _ => ⟨?_, ?_, ?_⟩⟩
  · have rising := t.pairwise_ordinal
    rw [← subjects, List.pairwise_map] at rising
    rw [account.failures, List.pairwise_map]
    simp only [Attempt.ordinal_outcome]
    exact rising.filter _
  · exact Attempt.ordinal_outcome
  · intro fails
    rw [Attempt.payload_outcome, if_neg fails, ne_eq, Attempt.failure?_outcome_eq_none_iff]
    exact ⟨rfl, fails⟩
  · intro passes
    rw [Attempt.payload_outcome, if_pos passes, Attempt.failure?_outcome_eq_none_iff]
    exact ⟨rfl, passes⟩

/-- A service that starts at every third request only, and fails to stop every other time. -/
def moody : Scripted :=
  .new [.ok true, .ok false, .error .alreadyRunning] [.ok (), .error .notRunning]

/-- The attempts of the moody service at the cascade. -/
def moodyAttempts : List (Attempt Scripted) := Scripted.service.attempts Table.cascade.cases moody

/-- The moody service fails in every way: it does not start, it does not stop, it starts though it should
not. Its first attempt passes and is not kept; its fourth one fails and is kept. -/
theorem report_of_moody :
    (Scripted.service.run Table.cascade moody).1.failures.map (fun o => (o.ordinal, o.failure?))
      = [(1, some "rejected a valid configuration"), (3, some "stop failed after a successful start"),
        (4, some "rejected a valid configuration"), (9, some "did not reject an invalid configuration"),
        (10, some "rejected a valid configuration")] ∧
    (Scripted.service.run Table.cascade moody).1.total = 11 ∧
    (∃ a ∈ moodyAttempts, a.Passes Scripted.service ∧ (a.outcome Scripted.service).payload = none) ∧
    ∃ a ∈ moodyAttempts, ¬ a.Passes Scripted.service ∧
      (a.outcome Scripted.service).payload = some a.subject := by
  obtain ⟨-, -, account, -, -, each⟩ := report_of_run Scripted.service Table.cascade moody
  have first := List.get_mem moodyAttempts ⟨0, by decide⟩
  have fourth := List.get_mem moodyAttempts ⟨3, by decide⟩
  have passes : (moodyAttempts.get ⟨0, by decide⟩).Passes Scripted.service := by decide
  have fails : ¬ (moodyAttempts.get ⟨3, by decide⟩).Passes Scripted.service := by decide
  exact ⟨by decide +kernel, account.total.trans (by decide),
    ⟨_, first, passes, ((each _ first).2.2 passes).1⟩, _, fourth, fails, ((each _ fourth).2.1 fails).1⟩

end Service
end ServerTrials.Trial
