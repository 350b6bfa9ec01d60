import ServerTrials.Trial.Run

/-!
Services that answer as they are told: the `n`-th call of a kind gets the `n`-th answer of its list, and
the list begins again after its end. Without a list every call succeeds.
-/

namespace ServerTrials.Trial

/-- A scripted service: its answers and how often it was called. -/
structure Scripted where
  starts : List (Except ServiceError Bool)
  stops : List (Except ServiceError Unit)
  startCalls : Nat
  stopCalls : Nat

namespace Scripted

/-- A service with these answers, not called yet. -/
def new (starts : List (Except ServiceError Bool)) (stops : List (Except ServiceError Unit)) :
    Scripted := ⟨starts, stops, 0, 0⟩

/-- The answer to the `n`-th call. -/
def answer {α : Type} (answers : List α) (success : α) (n : Nat) : α :=
  answers.getD (n % answers.length) success

/-- The scripted service as a service under trial. -/
def service : Service Scripted where
  start _ s := (answer s.starts (.ok true) s.startCalls, { s with startCalls := s.startCalls + 1 })
  stop s := (answer s.stops (.ok ()) s.stopCalls, { s with stopCalls := s.stopCalls + 1 })

end Scripted
end ServerTrials.Trial
