import ServerTrials.Binding.Message

/-!
Binding requests out of a byte stream or out of datagrams.

A stream arrives in chunks of any size. The bytes that do not yet make a whole message are kept; as soon
as they do, the message is taken off the front and answered if it is a request. What a read gives and
whether a response can be written is up to the socket. A datagram is read up to its limit and holds one
message.
-/

namespace ServerTrials.Binding

theorem headerLength_le_of_frameLength? {m : Bytes} {n : Nat} (h : frameLength? m = some n) :
    headerLength ≤ n ∧ n ≤ m.length := by
  unfold frameLength? at h
  split at h
  · contradiction
  · dsimp only at h
    split at h
    next le =>
      cases h
      exact ⟨Nat.le_add_right _ _, le⟩
    next => contradiction

/-- Takes the whole messages off the front: the responses to them, and the bytes that remain. -/
def drain (peer : Endpoint) (pending : Bytes) : List Bytes × Bytes :=
  match h : frameLength? pending with
  | none => ([], pending)
  | some n =>
    have := headerLength_le_of_frameLength? h
    let (responses, rest) := drain peer (pending.drop n)
    ((respond (pending.take n) peer).toList ++ responses, rest)
termination_by pending.length
decreasing_by
  simp only [List.length_drop, headerLength] at *
  omega

/-! ### Connections -/

/-- What the socket of a connection gives at a read. -/
inductive Arrival where
  /-- Bytes that have come in. If there are none, the peer sends no more. -/
  | bytes (chunk : Bytes)
  /-- Nothing has come in yet. -/
  | nothing
  /-- The connection is broken. -/
  | failure
  deriving DecidableEq, Repr

/-- Whether the peer takes a response, given those that it took before. -/
abbrev Writer := List Bytes → Bytes → Bool

/-- Writes responses after those written before, up to the first that is not taken: all that are written
then, and whether every one was taken. -/
def Writer.write (w : Writer) (written : List Bytes) : List Bytes → List Bytes × Bool
  | [] => (written, true)
  | r :: rs => if w written r then w.write (written ++ [r]) rs else (written, false)

/-- A connection: its peer and the bytes that wait for the rest of their message. -/
structure Connection where
  peer : Endpoint
  pending : Bytes
  deriving DecidableEq, Repr

namespace Connection

/-- A fresh connection. -/
def accept (peer : Endpoint) : Connection := ⟨peer, []⟩

/-- Reads a chunk: the responses to write, and the connection after it. -/
def read (c : Connection) (chunk : Bytes) : List Bytes × Connection :=
  let (responses, rest) := drain c.peer (c.pending ++ chunk)
  (responses, { c with pending := rest })

/-- Serves a connection on which some responses are written already: all that are written after these
arrivals, and the connection unless it is closed. It closes at the end of the stream, if it breaks, and
at the first response that is not taken. -/
def serve (w : Writer) (c : Connection) (written : List Bytes) :
    List Arrival → List Bytes × Option Connection
  | [] => (written, some c)
  | .nothing :: later => c.serve w written later
  | .failure :: _ => (written, none)
  | .bytes chunk :: later =>
    if chunk = [] then (written, none)
    else
      let (responses, c) := c.read chunk
      let (written, taken) := w.write written responses
      if taken then c.serve w written later else (written, none)

end Connection

/-- How much of a datagram is read. -/
def datagramLimit : Nat := 1500

/-- The answer to a datagram. -/
def respondDatagram (datagram : Bytes) (source : Endpoint) : Option Bytes :=
  respond (datagram.take datagramLimit) source

end ServerTrials.Binding
