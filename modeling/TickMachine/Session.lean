import TickMachine.Scheduler
import TickMachine.Display

namespace TickMachine

structure Session where
  scheduler : Scheduler
  source : Source
  rate : RateControl
  display : Display

inductive Operation where
  | start
  | stop
  | reset
  | halt
  | refresh
  | executeNext
  | tick (elapsed : Number)
  | setText (text : String)
  | setFile (contents : Except FileError (List UInt8))
  | setRate (value : Number)
  | setRegister (index value : Int)
  | setMemory (index value : Int)
  | push (index : Int)

inductive Answer where
  | done
  /-- Whether a tick used an instruction slot. -/
  | ticked (used : Bool)
deriving DecidableEq, Repr

structure Turn (α : Type) where
  session : Session
  records : List Record
  result : Except Failure α

namespace Session

/-- A new session shows its machine at once. -/
def onDisplay (source : Source) (rate : RateControl) (d : Display) : Turn Unit where
  session := ⟨.initial, source, rate, d.acceptAll (Scheduler.snapshot .initial)⟩
  records := d.journalAll (Scheduler.snapshot .initial)
  result := .ok ()

def connect (source : Source) (rate : RateControl) : Sink → Except Failure (Turn Unit)
  | .display d => .ok (onDisplay source rate d)
  | .disconnected => .error .disconnected

def absorb {α : Type} (s : Session) (r : Reply Scheduler Failure α) : Turn α where
  session := { s with scheduler := r.state, display := s.display.acceptAll r.signals }
  records := s.display.journalAll r.signals
  result := r.result

def start (s : Session) : Turn Unit := s.absorb (s.scheduler.start s.source s.rate)

def stop (s : Session) : Turn Unit := s.absorb s.scheduler.stop

def reset (s : Session) : Turn Unit := s.absorb s.scheduler.reset

def halt (s : Session) : Turn Unit := s.absorb s.scheduler.halt

def refresh (s : Session) : Turn Unit := s.absorb s.scheduler.refresh

def executeNext (s : Session) : Turn Unit := s.absorb s.scheduler.executeNext

def tick (s : Session) (elapsed : Number) : Turn Bool := s.absorb (s.scheduler.tick elapsed)

theorem result_executeNext (s : Session) :
    s.executeNext.result = s.scheduler.executeNext.result := rfl

theorem result_tick (s : Session) (elapsed : Number) :
    (s.tick elapsed).result = (s.scheduler.tick elapsed).result := rfl

def setText (s : Session) (text : String) : Session :=
  match s.source with
  | .text _ => { s with source := .text text }
  | _ => s

def setFile (s : Session) (contents : Except FileError (List UInt8)) : Session :=
  match s.source with
  | .file _ => { s with source := .file contents }
  | _ => s

def setRate (s : Session) (value : Number) : Session :=
  match s.rate with
  | .fixed _ => { s with rate := .fixed (.ofNumber value) }
  | _ => s

def withMachine (s : Session) (machine : Machine) : Session :=
  { s with scheduler := { s.scheduler with cpu := { s.scheduler.cpu with machine } } }

/-- A change made to the machine from outside, which the display does not notice. -/
def poke (s : Session) : Except Trap Machine → Turn Unit
  | .error t => ⟨s, [], .error (.trap t)⟩
  | .ok machine => ⟨s.withMachine machine, [], .ok ()⟩

def answered {α : Type} (f : α → Answer) (t : Turn α) : Turn Answer :=
  ⟨t.session, t.records, t.result.map f⟩

def perform (s : Session) : Operation → Turn Answer
  | .start => answered (fun _ => .done) s.start
  | .stop => answered (fun _ => .done) s.stop
  | .reset => answered (fun _ => .done) s.reset
  | .halt => answered (fun _ => .done) s.halt
  | .refresh => answered (fun _ => .done) s.refresh
  | .executeNext => answered (fun _ => .done) s.executeNext
  | .tick elapsed => answered .ticked (s.tick elapsed)
  | .setText text => ⟨s.setText text, [], .ok .done⟩
  | .setFile contents => ⟨s.setFile contents, [], .ok .done⟩
  | .setRate value => ⟨s.setRate value, [], .ok .done⟩
  | .setRegister index value =>
    answered (fun _ => .done) (s.poke (s.scheduler.machine.setRegister index value))
  | .setMemory index value =>
    answered (fun _ => .done) (s.poke (s.scheduler.machine.setMemory index value))
  | .push index => answered (fun _ => .done) (s.poke (.ok (s.scheduler.machine.push index)))

/-- The session after a row of operations, failing ones included. -/
def performAll (s : Session) (ops : List Operation) : Session :=
  ops.foldl (fun s op => (s.perform op).session) s

/-- A row of ticks: the pc after each, and whether it used a slot. -/
structure Beats where
  session : Session
  records : List Record
  beats : List (Bool × Int)
  failure : Option Failure

def Beats.after (records : List Record) (used : Bool) (pc : Int) (b : Beats) : Beats :=
  { b with records := records ++ b.records, beats := (used, pc) :: b.beats }

/-- Ticks by one interval each, `n` times, or until one fails or `goOn` no longer holds. -/
def ticksWhile (goOn : Session → Bool) (s : Session) : Nat → Beats
  | 0 => ⟨s, [], [], none⟩
  | n + 1 =>
    if goOn s then
      match s.tick (.real s.scheduler.interval) with
      | ⟨session, records, .error e⟩ => ⟨session, records, [], some e⟩
      | ⟨session, records, .ok used⟩ =>
        (ticksWhile goOn session n).after records used session.scheduler.pc
    else ⟨s, [], [], none⟩

def ticks (s : Session) (n : Nat) : Beats := s.ticksWhile (fun _ => true) n

def runOut (s : Session) (limit : Nat) : Beats := s.ticksWhile (·.scheduler.isRunning) limit

end Session
end TickMachine
