import TickMachine.Cpu
import TickMachine.Rate
import TickMachine.Decimal.Layout

namespace TickMachine

inductive RunState where
  | idle
  | running
  | halted
deriving DecidableEq, Repr

structure Scheduler where
  cpu : Cpu
  runState : RunState
  /-- The line to execute next. -/
  pc : Int
  /-- Seconds between two instructions. -/
  interval : Float
  /-- Seconds since the last instruction. -/
  timer : Float
deriving DecidableEq

namespace Scheduler

def initial : Scheduler := ⟨.initial, .idle, 0, 1.0, 0.0⟩

def program (s : Scheduler) : Program := s.cpu.program

def machine (s : Scheduler) : Machine := s.cpu.machine

def isRunning (s : Scheduler) : Bool := s.runState = .running

def snapshot (m : Machine) : List Signal := [.registers m.registers.dump, .memory m.memory.dump]

def refresh (s : Scheduler) : Reply Scheduler Failure Unit := ⟨s, snapshot s.machine, .ok ()⟩

def started : Signal := .event "CPU Started."

def loading (source : String) : List Signal :=
  (Program.notices source).map .record
    ++ (Program.parse source).labels.entries.map (fun entry => .event ("Found label: " ++ entry.1))
    ++ [.event ("Total instructions: " ++ toString (Program.parse source).size)]

def delaySet (interval : Float) : Signal :=
  .event ("Instruction delay set to: " ++ Decimal.render interval ++ " seconds")

def load (s : Scheduler) (source : String) : Scheduler :=
  { s with cpu := s.cpu.load (Program.parse source) }

/-- The run begins at the first line; the machine and the timer are left as they are. -/
def begin (s : Scheduler) (interval : Float) : Scheduler :=
  { s with interval, pc := 0, runState := .running }

def startOn (s : Scheduler) (source : String) : Except Failure Float → Reply Scheduler Failure Unit
  | .error e => ⟨s.load source, started :: loading source, .error e⟩
  | .ok interval =>
    ⟨(s.load source).begin interval,
      started :: loading source ++ delaySet interval :: snapshot s.machine, .ok ()⟩

/-- Reads and loads the source, sets the interval and goes to the first line. -/
def start (s : Scheduler) (source : Source) (rate : RateControl) : Reply Scheduler Failure Unit :=
  match source.read with
  | .error e => ⟨s, [started], .error (.source e)⟩
  | .ok text => s.startOn text rate.interval

def stop (s : Scheduler) : Reply Scheduler Failure Unit :=
  if s.isRunning then ⟨{ s with runState := .idle }, [.event "CPU Stopped."], .ok ()⟩
  else ⟨s, [], .ok ()⟩

def haltedAt (pc : Int) : Signal := .debug ("Halted @ " ++ toString pc)

/-- The journal takes down where the run halts. If the pc has too many digits for that, the run does
not halt. -/
def halt (s : Scheduler) : Reply Scheduler Failure Unit :=
  if Literal.isWritable s.pc then ⟨{ s with runState := .halted }, [haltedAt s.pc], .ok ()⟩
  else ⟨s, [], .error (.trap .unwritable)⟩

def cleared (s : Scheduler) : Scheduler :=
  { s with
    cpu := { s.cpu with machine := s.machine.reset }
    pc := 0
    timer := 0.0
    runState := .idle }

def reset (s : Scheduler) : Reply Scheduler Failure Unit :=
  ⟨s.cleared, snapshot s.cleared.machine, .ok ()⟩

def follow (s : Scheduler) : Reply Cpu Failure (Option Int) → Reply Scheduler Failure Unit
  | ⟨cpu, signals, .error e⟩ => ⟨{ s with cpu }, signals, .error e⟩
  | ⟨cpu, signals, .ok none⟩ => (halt { s with cpu } |>.andThen refresh).behind signals
  | ⟨cpu, signals, .ok (some next)⟩ => (refresh { s with cpu, pc := next }).behind signals

def executeNext (s : Scheduler) : Reply Scheduler Failure Unit :=
  if s.cpu.inProgram s.pc then s.follow (s.cpu.step s.pc)
  else s.halt.behind [.event "Program finished."]

/-- After a used slot the time starts again; a failing one leaves it on the timer. -/
def restartTimer : Reply Scheduler Failure Unit → Reply Scheduler Failure Bool
  | ⟨s, signals, .error e⟩ => ⟨s, signals, .error e⟩
  | ⟨s, signals, .ok _⟩ => ⟨{ s with timer := 0.0 }, signals, .ok true⟩

def addTime (s : Scheduler) (seconds : Float) : Scheduler := { s with timer := s.timer + seconds }

def whenDue (s : Scheduler) : Reply Scheduler Failure Bool :=
  if s.timer < s.interval then ⟨s, [], .ok false⟩ else restartTimer s.executeNext

/-- Lets time pass; the result says whether an instruction slot was used. -/
def tick (s : Scheduler) (elapsed : Number) : Reply Scheduler Failure Bool :=
  if s.isRunning then
    match elapsed.toFloat? with
    | none => ⟨s, [], .error .tooLarge⟩
    | some seconds => (s.addTime seconds).whenDue
  else ⟨s, [], .ok false⟩

theorem tick_of_not_running {s : Scheduler} (h : s.isRunning = false) (elapsed : Number) :
    s.tick elapsed = ⟨s, [], .ok false⟩ := by
  simp [tick, h]

theorem stop_of_not_running {s : Scheduler} (h : s.isRunning = false) :
    s.stop = ⟨s, [], .ok ()⟩ := by
  simp [stop, h]

end Scheduler
end TickMachine
