namespace TickMachine

inductive Level where
  | debug
  | info
  | warning
  | error
deriving DecidableEq, Repr

namespace Level

def name : Level → String
  | debug => "DEBUG"
  | info => "INFO"
  | warning => "WARNING"
  | error => "ERROR"

def severity : Level → Nat
  | debug => 10
  | info => 20
  | warning => 30
  | error => 40

end Level

structure Record where
  level : Level
  message : String
deriving DecidableEq, Repr

inductive Signal where
  /-- A message for the display. -/
  | event (message : String)
  | record (r : Record)
  /-- The registers are to be shown. -/
  | registers (values : List Int)
  | memory (values : List Int)
deriving DecidableEq, Repr

namespace Signal

def debug (message : String) : Signal := .record ⟨.debug, message⟩

def event? : Signal → Option String
  | .event message => some message
  | _ => none

end Signal
end TickMachine
