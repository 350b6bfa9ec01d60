import ServerTrials.Proofs.Binding.Frames

/-!
Serving a connection, however its bytes are cut into chunks.

What is pending after some chunks is the rest of all bytes received so far, and what has been written are
the answers to the messages before it. A chunk only takes this cut further, so by induction on the arrivals
the responses are those to the messages of the whole stream.
-/

namespace ServerTrials.Binding

/-- The answers to messages, in their order; a message that gets none is left out. -/
def answers (peer : Endpoint) (ms : List Bytes) : List Bytes := ms.filterMap fun m => respond m peer

/-- A whole message is answered iff it is a request. -/
theorem Whole.isSome_respond {m : Bytes} (h : Whole m) (peer : Endpoint) :
    (respond m peer).isSome = isRequest m m.length := by
  have whole := h.frameLength?_append []
  rw [List.append_nil] at whole
  rw [respond, whole]
  cases hm : isRequest m m.length <;> simp [hm]

theorem answers_append (peer : Endpoint) (ms ms' : List Bytes) :
    answers peer (ms ++ ms') = answers peer ms ++ answers peer ms' := List.filterMap_append

/-! ### Arrivals -/

namespace Arrival

/-- The bytes that an arrival brings. -/
def received : Arrival → Bytes
  | .bytes chunk => chunk
  | .nothing | .failure => []

/-- Neither the end of the stream nor a broken connection. -/
def Open (a : Arrival) : Prop := a ≠ .bytes [] ∧ a ≠ .failure

end Arrival

/-- All bytes that arrivals bring. -/
def received (as : List Arrival) : Bytes := as.flatMap Arrival.received

/-! ### Writing -/

namespace Writer

/-- Every response is taken, after those written before it. -/
def Takes (w : Writer) : (written responses : List Bytes) → Prop
  | _, [] => True
  | written, r :: rs => w written r = true ∧ w.Takes (written ++ [r]) rs

variable {w : Writer}

theorem takes_append : ∀ {rs rs' written : List Bytes},
    w.Takes written (rs ++ rs') ↔ w.Takes written rs ∧ w.Takes (written ++ rs) rs'
  | [], rs', written => by simp [Takes]
  | r :: rs, rs', written => by
    rw [List.cons_append, Takes, Takes, takes_append, and_assoc, List.append_assoc, List.singleton_append]

theorem takes_of_forall (h : ∀ written r, w written r = true) :
    ∀ rs written : List Bytes, w.Takes written rs
  | [], _ => trivial
  | r :: rs, written => ⟨h written r, takes_of_forall h rs _⟩

theorem write_of_takes : ∀ {rs written : List Bytes}, w.Takes written rs →
    w.write written rs = (written ++ rs, true)
  | [], written, _ => by rw [write, List.append_nil]
  | r :: rs, written, ⟨first, later⟩ => by
    rw [write, if_pos first, write_of_takes later, List.append_assoc, List.singleton_append]

end Writer

/-! ### One chunk after another -/

namespace Connection

variable {w : Writer} {peer : Endpoint} {pending chunk rest : Bytes} {ms written : List Bytes}

theorem read_eq (h : Frames (pending ++ chunk) ms rest) :
    (⟨peer, pending⟩ : Connection).read chunk = (answers peer ms, ⟨peer, rest⟩) := by
  rw [read, h.drain_eq]
  rfl

/-- A chunk that holds something: the messages that it completes are answered, the others wait. -/
theorem serve_bytes {later : List Arrival} (h : Frames (pending ++ chunk) ms rest) (nonempty : chunk ≠ [])
    (taken : w.Takes written (answers peer ms)) :
    (⟨peer, pending⟩ : Connection).serve w written (.bytes chunk :: later)
      = (⟨peer, rest⟩ : Connection).serve w (written ++ answers peer ms) later := by
  rw [serve, if_neg nonempty, read_eq h]
  simp only [Writer.write_of_takes taken, if_true]

/-- Serving goes on from what is pending: the messages cut from it and all that arrives are answered. -/
theorem serve_of_frames {as : List Arrival} (isOpen : ∀ a ∈ as, a.Open)
    (short : frameLength? pending = none) (h : Frames (pending ++ received as) ms rest)
    (taken : w.Takes written (answers peer ms)) :
    (⟨peer, pending⟩ : Connection).serve w written as
      = (written ++ answers peer ms, some ⟨peer, rest⟩) := by
  induction as generalizing pending ms written with
  | nil =>
    rw [received, List.flatMap_nil, List.append_nil] at h
    obtain ⟨rfl, rfl⟩ := (Frames.rest short).unique h
    simp [serve, answers]
  | cons a as ih =>
    obtain ⟨first, others⟩ := List.forall_mem_cons.1 isOpen
    rw [received, List.flatMap_cons, ← List.append_assoc] at h
    cases a with
    | nothing =>
      rw [Arrival.received, List.append_nil] at h
      rw [serve]
      exact ih others short h taken
    | failure => exact absurd rfl first.2
    | bytes chunk =>
      have nonempty : chunk ≠ [] := fun e => first.1 (congrArg Arrival.bytes e)
      -- the messages that this chunk completes come first among all that will be cut
      obtain ⟨now, waiting, cut⟩ := exists_frames (pending ++ chunk)
      obtain ⟨next, last, more⟩ := exists_frames (waiting ++ received as)
      obtain ⟨rfl, rfl⟩ := (cut.append more).unique h
      rw [answers_append, Writer.takes_append] at taken
      rw [serve_bytes cut nonempty taken.1, ih others cut.frameLength?_rest more taken.2, answers_append,
        List.append_assoc]

/-- A fresh connection that nothing closes has answered the messages of all that was received. -/
theorem serve_accept {as : List Arrival} (isOpen : ∀ a ∈ as, a.Open) (h : Frames (received as) ms rest)
    (taken : w.Takes [] (answers peer ms)) :
    (accept peer).serve w [] as = (answers peer ms, some ⟨peer, rest⟩) :=
  serve_of_frames isOpen rfl h taken

end Connection

/-- What is cut from a beginning of the stream is a beginning of what is cut from all of it. -/
theorem Frames.prefix_of_append {s more rest rest' : Bytes} {ms ms' : List Bytes} (h : Frames s ms rest)
    (h' : Frames (s ++ more) ms' rest') : ms <+: ms' := by
  obtain ⟨later, last, cut⟩ := exists_frames (rest ++ more)
  obtain ⟨rfl, -⟩ := (h.append cut).unique h'
  exact List.prefix_append _ _

/-- A stream is cut into messages and a rest in one way, and a message is answered iff it is a request.
However the bytes arrive, with whatever waits between them, and if every response is taken, the responses
written are the answers to those messages in their order, and the rest is pending. After each arrival on
the way, the answered messages are the first ones, and what is pending is what they leave of the bytes
received, too short to be a message. -/
theorem serve_however_cut (peer : Endpoint) (s : Bytes) : ∃ ms rest, Frames s ms rest ∧
    (∀ ms' rest', Frames s ms' rest' → ms' = ms ∧ rest' = rest) ∧
    (∀ m ∈ ms, (respond m peer).isSome = isRequest m m.length) ∧
    ∀ (w : Writer) (as : List Arrival), (∀ a ∈ as, a.Open) → received as = s →
      w.Takes [] (answers peer ms) →
      (Connection.accept peer).serve w [] as = (answers peer ms, some ⟨peer, rest⟩) ∧
      ∀ before, before <+: as → ∃ taken pending, taken <+: ms ∧
        (Connection.accept peer).serve w [] before = (answers peer taken, some ⟨peer, pending⟩) ∧
        taken.flatten ++ pending = received before ∧ frameLength? pending = none ∧
        pending.length < headerLength + 65535 := by
  obtain ⟨ms, rest, h⟩ := exists_frames s
  refine ⟨ms, rest, h, fun _ _ h' => h.unique h', fun m hm => (h.whole_of_mem hm).isSome_respond peer,
    fun w as isOpen all taken => ?_⟩
  subst all
  refine ⟨Connection.serve_accept isOpen h taken, ?_⟩
  rintro before ⟨after, rfl⟩
  obtain ⟨first, pending, cut⟩ := exists_frames (received before)
  rw [received, List.flatMap_append] at h
  obtain ⟨others, rfl⟩ := cut.prefix_of_append h
  rw [answers_append, Writer.takes_append] at taken
  have openBefore : ∀ a ∈ before, a.Open := fun a ha => isOpen a (List.mem_append_left _ ha)
  exact ⟨first, pending, List.prefix_append _ _, Connection.serve_accept openBefore cut taken.1,
    cut.flatten_append, cut.frameLength?_rest, cut.length_rest_lt⟩

/-- A binding request. -/
def request : Bytes := requestType ++ [0, 0] ++ cookie ++ List.replicate 12 7

/-- A message of another type, with four bytes after its header. -/
def indication : Bytes := [0x00, 0x11, 0, 4] ++ cookie ++ List.replicate 12 9 ++ [1, 2, 3, 4]

/-- The other end of a connection. -/
def client : Endpoint := ⟨.quad 10 0 0 7, 52000⟩

/-- The connection waits between chunks that end inside a length, inside the next header and after the
beginning of a third request. -/
def brokenUp : List Arrival :=
  [.bytes (request.take 3), .nothing, .bytes (request.drop 3 ++ indication.take 10),
    .bytes (indication.drop 10 ++ request ++ request.take 5)]

theorem frames_brokenUp :
    Frames (received brokenUp) [request, indication, request] (request.take 5) :=
  .frame (m := request) rfl (.frame (m := indication) rfl (.frame (m := request) rfl (.rest rfl)))

/-- Both requests are answered, the message between them is not. -/
theorem serve_brokenUp :
    (∀ a ∈ brokenUp, a.Open) ∧
    (Connection.accept client).serve (fun _ _ => true) [] brokenUp
      = (answers client [request, request], some ⟨client, request.take 5⟩) := by
  have isOpen : ∀ a ∈ brokenUp, a.Open := by simp [brokenUp, Arrival.Open, request, indication, requestType]
  obtain ⟨ms, rest, -, unique, answered, served⟩ := serve_however_cut client (received brokenUp)
  obtain ⟨rfl, rfl⟩ := unique _ _ frames_brokenUp
  have ignored : respond indication client = none := by
    have other : isRequest indication indication.length = false := by decide
    rw [← Option.not_isSome_iff_eq_none, answered indication (by simp), other]
    exact Bool.false_ne_true
  have dropped : answers client [request, indication, request] = answers client [request, request] := by
    simp only [answers, List.filterMap_cons, ignored]
  rw [← dropped]
  refine ⟨isOpen, (served _ brokenUp isOpen rfl ?_).1⟩
  exact Writer.takes_of_forall (fun _ _ => rfl) _ _

end ServerTrials.Binding
