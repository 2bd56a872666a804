import TickMachine.Program
import TickMachine.Source

namespace TickMachine

inductive Failure where
  | trap (t : Trap)
  | fetch (e : FetchError)
  | source (e : SourceError)
  /-- An integer too large for a double. -/
  | tooLarge
  /-- A control or display with nothing behind it. -/
  | disconnected
deriving DecidableEq, Repr

def Failure.message : Failure → String
  | trap t => t.message
  | fetch e => e.message
  | source e => e.message
  | tooLarge => "int too large to convert to float"
  | disconnected => ""

/-- What an operation leaves: the state, also when it fails, the signals it gave, and its result. -/
structure Reply (σ ε α : Type) where
  state : σ
  signals : List Signal
  result : Except ε α

namespace Reply

variable {σ ε α : Type}

def behind (signals : List Signal) (r : Reply σ ε α) : Reply σ ε α :=
  { r with signals := signals ++ r.signals }

/-- Goes on from a reply that is no failure. -/
def andThen (r : Reply σ ε Unit) (next : σ → Reply σ ε α) : Reply σ ε α :=
  match r with
  | ⟨state, signals, .error e⟩ => ⟨state, signals, .error e⟩
  | ⟨state, signals, .ok _⟩ => (next state).behind signals

end Reply
end TickMachine
