import ServerTrials.Server.Simulated

/-!
What a call does to a simulated server, and what many calls leave behind.

A start is decided by whether the server runs and, if it does not, by the judgement of its options. A call
that fails leaves the server as it was, so of a history only the successful starts and the stops of a running
server count (`step_cases`). Whatever was called, a server has been started once more than stopped while it
runs, and it runs with the options of its most recent successful start.
-/

namespace ServerTrials.SimServer

variable {s : SimServer} {o : Option OptionMap} {c : ServerConfig} {e : ConfigError}

theorem isRunning_iff : s.isRunning = true ↔ s.running ≠ none := Option.isSome_iff_ne_none

theorem start_of_running (running : s.running ≠ none) : s.start o = (.error .alreadyRunning, s) := by
  rw [start, if_pos (isRunning_iff.2 running)]

theorem start_of_accepted (stopped : s.running = none)
    (accepted : ServerConfig.ofOptions (o.getD .empty) s.host = .ok c) :
    s.start o = (.ok true, { s with running := some c, starts := s.starts + 1 }) := by
  rw [start, if_neg (by simp [isRunning, stopped]), accepted]

theorem start_of_refused (stopped : s.running = none)
    (refused : ServerConfig.ofOptions (o.getD .empty) s.host = .error e) :
    s.start o = (.error (.invalidConfig e), s) := by
  rw [start, if_neg (by simp [isRunning, stopped]), refused]

theorem stop_of_running (running : s.running ≠ none) :
    s.stop = (.ok (), { s with running := none, stops := s.stops + 1 }) := by
  rw [stop, if_pos (isRunning_iff.2 running)]

theorem stop_of_stopped (stopped : s.running = none) : s.stop = (.ok (), s) := by
  rw [stop, if_neg (by simp [isRunning, stopped])]

/-- Malformed arguments are the answer whether the server runs or not. -/
theorem startPositional_of_malformed {args : List (Option Json)}
    (malformed : Positional.options args = .error e) :
    s.startPositional args = (.error (.invalidConfig e), s) := by
  rw [startPositional, malformed]

theorem startPositional_of_ok {args : List (Option Json)} {options : OptionMap}
    (h : Positional.options args = .ok options) :
    s.startPositional args = s.start (some options) := by
  rw [startPositional, h]

/-! ### One operation -/

/-- The options that an operation starts a server with: none given are the empty map, positional ones are
the options that they stand for. -/
def Operation.options? : Operation → Option OptionMap
  | .start o => some (o.getD .empty)
  | .startPositional args => (Positional.options args).toOption
  | .stop => none

/-- The answer of a start that succeeded. -/
def Answer.isStart : Answer → Bool
  | .started (.ok true) => true
  | _ => false

/-- The answer of a call that failed. -/
def Answer.isError : Answer → Bool
  | .started (.error _) | .stopped (.error _) => true
  | _ => false

/-- A start either fails and changes nothing, or the server was stopped and runs with what its options
stand for. -/
theorem start_cases (s : SimServer) (o : Option OptionMap) :
    (∃ e, s.start o = (.error e, s)) ∨
    ∃ c, s.running = none ∧ ServerConfig.ofOptions (o.getD .empty) s.host = .ok c ∧
      s.start o = (.ok true, { s with running := some c, starts := s.starts + 1 }) := by
  by_cases stopped : s.running = none
  · cases judged : ServerConfig.ofOptions (o.getD .empty) s.host with
    | error e => exact Or.inl ⟨_, start_of_refused stopped judged⟩
    | ok c => exact Or.inr ⟨c, stopped, rfl, start_of_accepted stopped judged⟩
  · exact Or.inl ⟨_, start_of_running stopped⟩

/-- All that an operation can do: fail, start a stopped server, stop a running one, or stop a stopped one. -/
theorem step_cases (s : SimServer) (op : Operation) :
    (∃ e, s.step op = (.started (.error e), s)) ∨
    (∃ o c, op.options? = some o ∧ s.running = none ∧ ServerConfig.ofOptions o s.host = .ok c ∧
      s.step op = (.started (.ok true), { s with running := some c, starts := s.starts + 1 })) ∨
    (s.running ≠ none ∧
      s.step op = (.stopped (.ok ()), { s with running := none, stops := s.stops + 1 })) ∨
    (s.running = none ∧ s.step op = (.stopped (.ok ()), s)) := by
  cases op with
  | start o =>
    rcases s.start_cases o with ⟨e, h⟩ | ⟨c, stopped, accepted, h⟩
    · exact Or.inl ⟨e, by rw [step, h]; rfl⟩
    · exact Or.inr (Or.inl ⟨_, c, rfl, stopped, accepted, by rw [step, h]; rfl⟩)
  | startPositional args =>
    cases read : Positional.options args with
    | error e => exact Or.inl ⟨_, by rw [step, startPositional_of_malformed read]; rfl⟩
    | ok o =>
      rw [step, startPositional_of_ok read]
      rcases s.start_cases (some o) with ⟨e, h⟩ | ⟨c, stopped, accepted, h⟩
      · exact Or.inl ⟨e, by rw [h]; rfl⟩
      · refine Or.inr (Or.inl ⟨o, c, ?_, stopped, accepted, by rw [h]; rfl⟩)
        rw [Operation.options?, read]
        rfl
  | stop =>
    by_cases stopped : s.running = none
    · exact Or.inr (Or.inr (Or.inr ⟨stopped, by rw [step, stop_of_stopped stopped]; rfl⟩))
    · exact Or.inr (Or.inr (Or.inl ⟨stopped, by rw [step, stop_of_running stopped]; rfl⟩))

/-- A call that fails changes nothing. -/
theorem step_of_isError {op : Operation} (failed : (s.step op).1.isError = true) : (s.step op).2 = s := by
  rcases s.step_cases op with ⟨e, h⟩ | ⟨o, c, -, -, -, h⟩ | ⟨-, h⟩ | ⟨-, h⟩
  · rw [h]
  · rw [h] at failed
    contradiction
  · rw [h] at failed
    contradiction
  · rw [h]

/-! ### Histories -/

/-- Operations with what they were answered, in order. -/
abbrev History := List (Operation × Answer)

/-- The history of a server from here on. -/
def history (s : SimServer) : List Operation → History
  | [] => []
  | op :: ops => (op, (s.step op).1) :: (s.step op).2.history ops

/-- The options of the most recent start that succeeded. -/
def lastStart? (h : History) : Option OptionMap := do
  let (op, _) ← (h.filter fun entry => entry.2.isStart).getLast?
  op.options?

theorem lastStart?_append_of_isStart {h : History} {op : Operation} {a : Answer}
    (started : a.isStart = true) : lastStart? (h ++ [(op, a)]) = op.options? := by
  have last : (h ++ [(op, a)]).filter (fun entry => entry.2.isStart)
      = h.filter (fun entry => entry.2.isStart) ++ [(op, a)] := by
    simp only [List.filter_append, List.filter_cons, List.filter_nil, started, if_true]
  rw [lastStart?, last, List.getLast?_concat]
  rfl

theorem lastStart?_append_of_not_isStart {h : History} {op : Operation} {a : Answer}
    (other : a.isStart = false) : lastStart? (h ++ [(op, a)]) = lastStart? h := by
  have same : (h ++ [(op, a)]).filter (fun entry => entry.2.isStart)
      = h.filter (fun entry => entry.2.isStart) := by
    simp only [List.filter_append, List.filter_cons, List.filter_nil, other, Bool.false_eq_true, if_false,
      List.append_nil]
  rw [lastStart?, same, lastStart?]

/-- What a history leaves behind: the counters tell whether the server runs, and it runs with the options
of the most recent successful start. -/
structure Accounted (host : Host) (h : History) (s : SimServer) : Prop where
  sameHost : s.host = host
  counters : s.starts = s.stops + if s.isRunning then 1 else 0
  config : ∀ c, s.running = some c →
    ∃ o, lastStart? h = some o ∧ ServerConfig.ofOptions o host = .ok c

namespace Accounted

variable {host : Host} {h : History}

theorem new (host : Host) : Accounted host [] (new host) where
  sameHost := rfl
  counters := rfl
  config _ running := nomatch running

theorem step (inv : Accounted host h s) (op : Operation) :
    Accounted host (h ++ [(op, (s.step op).1)]) (s.step op).2 := by
  have counters := inv.counters
  rcases s.step_cases op with ⟨e, he⟩ | ⟨o, c, asked, stopped, accepted, he⟩ | ⟨running, he⟩ | ⟨stopped, he⟩
  · rw [he]
    refine ⟨inv.sameHost, counters, fun c running => ?_⟩
    rw [lastStart?_append_of_not_isStart rfl]
    exact inv.config c running
  · rw [he]
    refine ⟨inv.sameHost, ?_, fun c' running => ⟨o, ?_, ?_⟩⟩
    · rw [isRunning, stopped] at counters
      simpa [isRunning] using counters
    · rw [lastStart?_append_of_isStart rfl, asked]
    · rw [← inv.sameHost, accepted, Option.some.inj running]
  · rw [he]
    refine ⟨inv.sameHost, ?_, fun c running => nomatch running⟩
    rw [isRunning_iff.2 running] at counters
    simpa [isRunning] using counters
  · rw [he]
    refine ⟨inv.sameHost, counters, fun c running => ?_⟩
    rw [stopped] at running
    contradiction

theorem run (inv : Accounted host h s) (ops : List Operation) :
    Accounted host (h ++ s.history ops) (s.run ops) := by
  -- over the operations: each one extends the history by its answer
  induction ops generalizing s h with
  | nil =>
    rw [history, List.append_nil]
    exact inv
  | cons op ops ih =>
    have next := ih (inv.step op)
    rw [List.append_assoc, List.singleton_append] at next
    exact next

end Accounted

/-- Whatever was called on a new server: it has been started once more than stopped while it runs and as
often otherwise, and it runs with what the options of its most recent successful start stand for. A running
server refuses to start and does not look at the options; only malformed positional arguments are told
first, in either state. A stopped one starts iff its options are accepted, given as a map or by position, and
then it runs with what they stand for and counts one start more. A call that fails changes nothing, a stop
never fails; it counts one stop more if the server runs, and it changes nothing if the server is stopped. -/
theorem lifecycle_of_run (host : Host) (ops : List Operation) :
    let s := (new host).run ops
    s.starts = s.stops + (if s.isRunning then 1 else 0) ∧
    (∀ c, s.running = some c → ∃ o, lastStart? ((new host).history ops) = some o ∧
      ServerConfig.ofOptions o host = .ok c) ∧
    (s.running ≠ none → ∀ o, s.start o = (.error .alreadyRunning, s) ∧ s.startLog o = []) ∧
    (s.running ≠ none → ∀ args options, Positional.options args = .ok options →
      s.startPositional args = (.error .alreadyRunning, s)) ∧
    (∀ args e, Positional.options args = .error e →
      s.startPositional args = (.error (.invalidConfig e), s)) ∧
    (s.running = none → ∀ o,
      (s.start o).1 = .ok true ↔ ∃ c, ServerConfig.ofOptions (o.getD .empty) host = .ok c) ∧
    (s.running = none → ∀ o c, ServerConfig.ofOptions (o.getD .empty) host = .ok c →
      s.start o = (.ok true, { s with running := some c, starts := s.starts + 1 })) ∧
    (s.running = none → ∀ o e, ServerConfig.ofOptions (o.getD .empty) host = .error e →
      s.start o = (.error (.invalidConfig e), s)) ∧
    (s.running = none → ∀ args o c, Positional.options args = .ok o →
      ServerConfig.ofOptions o host = .ok c →
      s.startPositional args = (.ok true, { s with running := some c, starts := s.starts + 1 })) ∧
    (∀ op, (s.step op).1.isError = true → (s.step op).2 = s) ∧
    s.stop.1 = .ok () ∧ (s.running = none → s.stop.2 = s) ∧
    (s.running ≠ none → s.stop.2 = { s with running := none, stops := s.stops + 1 }) := by
  intro s
  have inv : Accounted host ((new host).history ops) s := (Accounted.new host).run ops
  have accepting : s.running = none → ∀ o c, ServerConfig.ofOptions (o.getD .empty) host = .ok c →
      s.start o = (.ok true, { s with running := some c, starts := s.starts + 1 }) :=
    fun stopped o c accepted => start_of_accepted stopped (inv.sameHost.symm ▸ accepted)
  refine ⟨inv.counters, inv.config, fun running o => ⟨start_of_running running, ?_⟩,
    fun running args options read => ?_, fun args e malformed => startPositional_of_malformed malformed,
    fun stopped o => ⟨fun started => ?_, ?_⟩, accepting,
    fun stopped o e refused => start_of_refused stopped (inv.sameHost.symm ▸ refused),
    fun stopped args o c read accepted => ?_, fun op => step_of_isError, ?_, fun stopped => ?_,
    fun running => ?_⟩
  · rw [startLog, if_pos (isRunning_iff.2 running)]
  · rw [startPositional_of_ok read, start_of_running running]
  · rcases s.start_cases o with ⟨e, h⟩ | ⟨c, -, accepted, -⟩
    · rw [h] at started
      contradiction
    · exact ⟨c, inv.sameHost ▸ accepted⟩
  · rintro ⟨c, accepted⟩
    rw [accepting stopped o c accepted]
  · rw [startPositional_of_ok read, accepting stopped (some o) c accepted]
  · rw [stop]
    split <;> rfl
  · rw [stop_of_stopped stopped]
  · rw [stop_of_running running]

/-- Positional arguments with a port and a protocol. -/
def onPort4000 : List (Option Json) := [some (.number (.integer 4000)), none, some (.string "tcp")]

/-- What these stand for. -/
def tcpOn4000 : OptionMap :=
  .ofList [(Key.alternatePort, .number (.integer 4001)), (Key.primaryPort, .number (.integer 4000)),
    (Key.protocol, .string "tcp")]

/-- A full server comes and goes, another stop comes after it, and a positional start that succeeds is
followed by one that is refused. -/
def eventful : List Operation :=
  [.start (some (.ofList [(Key.mode, .string "full")])), .stop, .stop, .startPositional onPort4000,
    .start (some (.ofList [(Key.mode, .string "full")]))]

/-- The server runs after its second start, with the options of the positional arguments, and refuses every
further one; an argument of the wrong shape is told all the same. -/
theorem lifecycle_of_eventful :
    let s := (new .dualHomed).run eventful
    s.running ≠ none ∧ s.starts = 2 ∧ s.stops = 1 ∧
    lastStart? ((new .dualHomed).history eventful) = some tcpOn4000 ∧
    (∃ c, s.running = some c ∧ ServerConfig.ofOptions tcpOn4000 .dualHomed = .ok c ∧
      c.protocol = .tcp ∧ c.endpoints.pp.port = 4000) ∧
    s.start none = (.error .alreadyRunning, s) ∧
    s.startPositional [some (.string "4000")] = (.error (.invalidConfig (.invalidEndpointArgument 0)), s) ∧
    s.stop.2.running = none ∧ s.stop.2.stops = 2 := by
  intro s
  obtain ⟨counters, config, busy, -, malformed, -, -, -, -, -, -, -, stops⟩ :=
    lifecycle_of_run .dualHomed eventful
  have running : s.running ≠ none := by decide +kernel
  have stopped : s.stops = 1 := by decide +kernel
  have last : lastStart? ((new .dualHomed).history eventful) = some tcpOn4000 := by decide +kernel
  obtain ⟨c, hc⟩ := Option.ne_none_iff_exists'.1 running
  obtain ⟨o, ho, accepted⟩ := config c hc
  obtain rfl := Option.some.inj (last.symm.trans ho)
  have serves : ∀ c ∈ s.running, c.protocol = .tcp ∧ c.endpoints.pp.port = 4000 := by decide +kernel
  rw [if_pos (isRunning_iff.2 running)] at counters
  refine ⟨running, ?_, stopped, last, ⟨c, hc, accepted, serves c hc⟩, (busy running none).1,
    malformed _ _ rfl, ?_, ?_⟩
  · rw [counters, stopped]
  · rw [stops running]
  · rw [stops running, stopped]

end ServerTrials.SimServer
