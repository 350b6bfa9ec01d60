import ServerTrials.Proofs.Server.Simulated
import ServerTrials.Proofs.Trial.Reports

/-!
A trial of a simulated server is a judgement of its cases.

A server that is stopped when a case comes is stopped again when the case is over, so every case meets it in
the same state up to the counters, and what is observed depends on the options and the host alone
(`verdict`). A server that runs refuses all cases and is not touched by any of them.
-/

namespace ServerTrials.SimServer

open Trial

/-- What is observed of a stopped server on the host that is started with these options. -/
def verdict (host : Host) (o : OptionMap) : Observed :=
  match ServerConfig.ofOptions o host with
  | .ok _ => .accepted
  | .error e => .rejected (ServiceError.invalidConfig e).message

/-- Whether a server on the host accepts the options of a case. -/
def accepts (host : Host) (c : Case) : Bool := (ServerConfig.ofOptions c.config host).isOk

/-- The outcome of a case that meets a stopped server on the host. -/
def outcome (host : Host) (c : Case) : Outcome :=
  .ofCalls c (verdict host c.config) (if accepts host c then some (.ok ()) else none)

/-- The outcome of a case that meets a running server. -/
def busyOutcome (c : Case) : Outcome :=
  .ofCalls c (.rejected ServiceError.alreadyRunning.message) none

/-- The server after it was started and stopped that many times more. -/
def cycled (s : SimServer) (n : Nat) : SimServer :=
  { s with starts := s.starts + n, stops := s.stops + n }

@[simp] theorem cycled_running (s : SimServer) (n : Nat) : (s.cycled n).running = s.running := rfl

@[simp] theorem cycled_host (s : SimServer) (n : Nat) : (s.cycled n).host = s.host := rfl

theorem cycled_cycled (s : SimServer) (m n : Nat) : (s.cycled m).cycled n = s.cycled (m + n) := by
  simp only [cycled, Nat.add_assoc]

variable {s : SimServer}

/-! ### A stopped server -/

theorem execute_of_stopped (stopped : s.running = none) (c : Case) :
    service.execute c s = (outcome s.host c, s.cycled (if accepts s.host c then 1 else 0)) := by
  cases judged : ServerConfig.ofOptions c.config s.host with
  | ok config =>
    have started : service.start c.config s
        = (.ok true, { s with running := some config, starts := s.starts + 1 }) :=
      start_of_accepted stopped judged
    have stops : service.stop { s with running := some config, starts := s.starts + 1 }
        = (.ok (), s.cycled 1) := by
      have stop := stop_of_running (s := { s with running := some config, starts := s.starts + 1 })
        (Option.some_ne_none config)
      rw [cycled, stopped]
      exact stop
    rw [Service.execute_of_started started, stops, outcome, verdict, accepts, judged]
    rfl
  | error e =>
    have refused : service.start c.config s = (.error (.invalidConfig e), s) :=
      start_of_refused stopped judged
    rw [(Service.execute_of_declined refused (by simp)).1, outcome, verdict, accepts, judged]
    rfl

/-- Each case meets the server stopped, however often it ran before. -/
theorem executeAll_of_stopped : ∀ (cases : List Case) {s : SimServer}, s.running = none →
    service.executeAll cases s
      = (cases.map (outcome s.host), s.cycled (cases.countP (accepts s.host)))
  | [], _, _ => rfl
  | c :: cases, s, stopped => by
    have again : (s.cycled (if accepts s.host c then 1 else 0)).running = none := stopped
    rw [Service.executeAll_cons, execute_of_stopped stopped, executeAll_of_stopped cases again,
      cycled_host, cycled_cycled, List.map_cons, List.countP_cons, Nat.add_comm]

/-! ### A running server -/

theorem execute_of_running (running : s.running ≠ none) (c : Case) :
    service.execute c s = (busyOutcome c, s) := by
  have refused : service.start c.config s = (.error .alreadyRunning, s) := start_of_running running
  exact (Service.execute_of_declined refused (by simp)).1

theorem executeAll_of_running (running : s.running ≠ none) : ∀ cases : List Case,
    service.executeAll cases s = (cases.map busyOutcome, s)
  | [] => rfl
  | c :: cases => by
    rw [Service.executeAll_cons, execute_of_running running, executeAll_of_running running cases,
      List.map_cons]

/-! ### Whole runs -/

theorem accepts_iff {host : Host} {c : Case} :
    accepts host c = true ↔ ∃ config, ServerConfig.ofOptions c.config host = .ok config := by
  rw [accepts]
  cases ServerConfig.ofOptions c.config host <;> simp [Except.isOk, Except.toBool]

theorem isAccepted_verdict (host : Host) (c : Case) :
    decide (verdict host c.config = .accepted) = accepts host c := by
  rw [verdict, accepts]
  cases ServerConfig.ofOptions c.config host <;> simp [Except.isOk, Except.toBool]

/-- The outcome matches iff the judgement of the options agrees with what is expected. -/
theorem matched_outcome (host : Host) (c : Case) :
    (outcome host c).matched = (accepts host c == decide (c.expected = .accept)) := by
  rw [outcome, verdict, accepts]
  cases ServerConfig.ofOptions c.config host <;> cases expected : c.expected <;>
    simp [Outcome.ofCalls, Observed.meets, Outcome.errorText?, Except.isOk, Except.toBool, expected]

theorem matched_busyOutcome (c : Case) :
    (busyOutcome c).matched = !decide (c.expected = .accept) := by
  cases expected : c.expected <;> simp [busyOutcome, Outcome.ofCalls, Observed.meets, expected]

theorem run_of_stopped (stopped : s.running = none) (t : Table) : service.run t s
    = (.tally t.cases (t.cases.map (outcome s.host)), s.cycled (t.cases.countP (accepts s.host))) := by
  rw [Service.run_eq_tally, executeAll_of_stopped t.cases stopped]

theorem run_of_running (running : s.running ≠ none) (t : Table) :
    service.run t s = (.tally t.cases (t.cases.map busyOutcome), s) := by
  rw [Service.run_eq_tally, executeAll_of_running running]

theorem failures_of_stopped (stopped : s.running = none) (t : Table) : (service.run t s).1.failures
    = (t.cases.filter fun c => accepts s.host c != decide (c.expected = .accept)).map (outcome s.host) := by
  rw [run_of_stopped stopped, Report.failures_tally, List.filter_map]
  simp only [Function.comp_def, matched_outcome, bne]

theorem accepted_of_stopped (stopped : s.running = none) (t : Table) :
    (service.run t s).1.accepted = t.cases.countP (accepts s.host) := by
  rw [run_of_stopped stopped, Report.accepted_tally, List.countP_map]
  exact congrArg (List.countP · t.cases) (funext (isAccepted_verdict s.host))

/-- A stopped server is told to stop once for each case that it accepts. -/
theorem stopCalls_of_stopped (stopped : s.running = none) (t : Table) :
    (service.run t s).1.stopCalls = t.cases.countP (accepts s.host) := by
  have stops : ∀ c, (outcome s.host c).stopped = accepts s.host c := fun c => by
    rw [outcome]
    cases accepts s.host c <;> rfl
  rw [run_of_stopped stopped, Report.stopCalls_tally, List.countP_map]
  exact congrArg (List.countP · t.cases) (funext stops)

section

variable {t : Table} (stopped : s.running = none)
  (agree : ∀ c ∈ t.cases, accepts s.host c = decide (c.expected = .accept))
include stopped agree

/-! A stopped server that accepts just the cases which are to be accepted fails none of them. -/

theorem failures_of_agreement : (service.run t s).1.failures = [] := by
  rw [failures_of_stopped stopped, List.map_eq_nil_iff, List.filter_eq_nil_iff]
  intro c hc
  simp [agree c hc]

theorem passed_of_agreement : (service.run t s).1.passed = t.cases.length := by
  have account := service.accountsFor_run t s
  have passed := account.passed
  rwa [failures_of_agreement stopped agree, List.length_nil, Nat.add_zero, account.total] at passed

theorem accepted_of_agreement :
    (service.run t s).1.accepted = t.cases.countP (·.expected = .accept) := by
  rw [accepted_of_stopped stopped]
  exact List.countP_congr fun c hc => by rw [agree c hc]

theorem rejected_of_agreement :
    (service.run t s).1.rejected = t.cases.countP (·.expected = .reject) := by
  have account := service.accountsFor_run t s
  have observed := account.observed
  rw [account.total, ← countP_accept_add_countP_reject, accepted_of_agreement stopped agree] at observed
  exact Nat.add_left_cancel observed

end

/-- A busy server is never told to stop. -/
theorem countP_isStop_of_running (running : s.running ≠ none) (t : Table) :
    (service.observed.run t (s, [])).2.2.countP Call.isStop = 0 := by
  obtain ⟨blocks, makes, noted⟩ := Service.foldl_step_observed service t.cases ({}, s)
  have stopCalls : (service.run t s).1.stopCalls = 0 + blocks.flatten.countP Call.isStop :=
    makes.stopCalls
  rw [run_of_running running, Report.stopCalls_tally, List.countP_map, Nat.zero_add] at stopCalls
  have calls : (service.observed.run t (s, [])).2.2 = blocks.flatten := by
    rw [Service.run, Service.runCases, noted []]
    rfl
  rw [calls, ← stopCalls, List.countP_eq_zero]
  simp [busyOutcome, Outcome.ofCalls]

/-- A run against a simulated server judges each case by itself. If the server is stopped at first, then it
is stopped after every case; it accepts the case iff the options stand for a configuration and else
rejects it with the rule they break, and the failures are the cases of which something else is expected.
If it runs, it rejects everything, is never told to stop, and stays as it is. -/
theorem run_judges_cases (t : Table) (s : SimServer) :
    (s.running = none →
      (service.executeAll t.cases s).1.map (·.observed) = t.cases.map (fun c => verdict s.host c.config) ∧
      (service.run t s).1.failures = (t.cases.filter fun c =>
        accepts s.host c != decide (c.expected = .accept)).map (outcome s.host) ∧
      (∀ done, done <+: t.cases → (service.executeAll done s).2.running = none) ∧
      (service.run t s).2 = s.cycled (service.run t s).1.accepted) ∧
    (s.running ≠ none →
      (service.executeAll t.cases s).1.map (·.observed)
        = t.cases.map (fun _ => .rejected ServiceError.alreadyRunning.message) ∧
      (service.run t s).1.failures
        = (t.cases.filter fun c => c.expected = .accept).map busyOutcome ∧
      (service.observed.run t (s, [])).2.2.countP Call.isStop = 0 ∧
      (service.run t s).2 = s) := by
  refine ⟨fun stopped => ⟨?_, failures_of_stopped stopped t, fun done _ => ?_, ?_⟩,
    fun running => ⟨?_, ?_, countP_isStop_of_running running t, ?_⟩⟩
  · rw [executeAll_of_stopped t.cases stopped, List.map_map]
    rfl
  · rw [executeAll_of_stopped done stopped, cycled_running, stopped]
  · rw [accepted_of_stopped stopped, run_of_stopped stopped]
  · rw [executeAll_of_running running, List.map_map]
    rfl
  · rw [run_of_running running, Report.failures_tally, List.filter_map]
    simp only [Function.comp_def, matched_busyOutcome, Bool.not_not]
  · rw [run_of_running running]

/-- A server that runs with the default options. -/
def busy : SimServer := ((SimServer.new .dualHomed).start none).2

/-- Full mode without the alternate port is a case that the cascade wants rejected and a server accepts, by
its default port. It is the only failure of a stopped server, which starts seven times; a running one fails
the cases to accept. -/
theorem run_judges_cascade :
    (service.run .cascade (.new .dualHomed)).1.failures.map (·.ordinal) = [8] ∧
    (service.run .cascade (.new .dualHomed)).2 = (SimServer.new .dualHomed).cycled 7 ∧
    (service.run .cascade busy).1.failures.map (·.ordinal) = [0, 1, 3, 4, 6, 10] ∧
    (service.run .cascade busy).2 = busy := by
  obtain ⟨-, failures, -, after⟩ := (run_judges_cases .cascade (.new .dualHomed)).1 rfl
  obtain ⟨-, busyFailures, -, untouched⟩ := (run_judges_cases .cascade busy).2 (by decide +kernel)
  have accepted : (service.run .cascade (.new .dualHomed)).1.accepted = 7 := by decide +kernel
  rw [failures, after, accepted, busyFailures]
  exact ⟨by decide +kernel, rfl, by decide +kernel, untouched⟩

end ServerTrials.SimServer
