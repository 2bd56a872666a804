import TickMachine.CommandLine.Path
import TickMachine.Session

namespace TickMachine

/-- What a call on the surroundings can end in instead of an answer. -/
inductive Obstacle where
  | interrupt
  | failure (e : Failure)
deriving DecidableEq

/-- The surroundings of the command. An interruption comes between the calls on the scheduler and
never inside one: while the clock is read, in the moment after a tick, or in a sleep. -/
structure World (m : Type → Type) where
  read : Path → m (Except FileError (List UInt8))
  /-- The clock, in seconds. -/
  now : m (Except Obstacle Float)
  /-- The moment after a tick. -/
  heed : m (Except Obstacle Unit)
  /-- Sleeps for a frame. -/
  sleep : m (Except Obstacle Unit)
  /-- Takes the records so far, last one first, and gives back those that it does not write. -/
  journal : List Record → m (List Record)
  /-- So many rounds of the loop, and the user gives up. -/
  patience : Nat

inductive HostEnd where
  | finished
  | timedOut
  | interrupted
  | failed (e : Failure)
deriving DecidableEq

def Obstacle.ending : Obstacle → HostEnd
  | interrupt => .interrupted
  | failure e => .failed e

structure Host where
  session : Session
  /-- The journal that is not yet written, last record first. -/
  records : List Record
  /-- The first reading of the clock. -/
  started : Float
  /-- The reading at the last tick. -/
  last : Float
  sleeps : Nat

namespace Host

variable {m : Type → Type} [Monad m]

/-- Before the clock has been read. -/
def begin (session : Session) (records : List Record) : Host := ⟨session, records, 0.0, 0.0, 0⟩

def startAt (h : Host) (now : Float) : Host := { h with started := now, last := now }

def isRunning (h : Host) : Bool := h.session.scheduler.isRunning

/-- Takes over what an operation on the session left. -/
def after {α : Type} (h : Host) (turn : Turn α) : Host :=
  { h with session := turn.session, records := turn.records.reverse ++ h.records }

def tick (h : Host) (now : Float) : Host × Except Failure Bool :=
  let turn := h.session.tick (.real (now - h.last))
  ({ h.after turn with last := now }, turn.result)

def isOver (h : Host) : Option Float → Bool
  | none => false
  | some timeout => timeout ≤ h.last - h.started

def stop (h : Host) : Host := h.after h.session.stop

/-- Falls asleep with the records that are left. -/
def asleep (h : Host) (records : List Record) : Host := { h with records, sleeps := h.sleeps + 1 }

/-- Goes on with the answer of a call; an obstacle ends the round. -/
@[specialize]
def await {α : Type} (h : Host) (call : m (Except Obstacle α))
    (next : α → m (Host × Option HostEnd)) : m (Host × Option HostEnd) := do
  match ← call with
  | .error o => return (h, some o.ending)
  | .ok answer => next answer

/-- The second half of a round: the time is up, or there is time to sleep. -/
@[specialize]
def rest (w : World m) (timeout : Option Float) (h : Host) : m (Host × Option HostEnd) := do
  if h.isOver timeout then return (h.stop, some .timedOut)
  let slept := h.asleep (← w.journal h.records)
  slept.await w.sleep fun _ => return (slept, none)

@[specialize]
def afterTick (w : World m) (timeout : Option Float) (h : Host) :
    Except Failure Bool → m (Host × Option HostEnd)
  | .error e => return (h, some (.failed e))
  | .ok _ => h.await w.heed fun _ => h.rest w timeout

/-- One round of the loop; without an end the loop goes on. -/
@[specialize]
def beat (w : World m) (timeout : Option Float) (h : Host) : m (Host × Option HostEnd) :=
  h.await w.now fun now =>
    let ticked := h.tick now
    ticked.1.afterTick w timeout ticked.2

/-- Round after round, as long as the run goes on and there is patience left. -/
@[specialize]
def loop (w : World m) (timeout : Option Float) (patience : Nat) (h : Host) :
    m (Host × HostEnd) := do
  if h.isRunning then
    match patience with
    | 0 => return (h, .interrupted)
    | patience + 1 =>
      match ← h.beat w timeout with
      | (beaten, some e) => return (beaten, e)
      | (beaten, none) => loop w timeout patience beaten
  else return (h, .finished)

/-- Reads the clock for the first time, and goes into the loop. -/
@[specialize]
def drive (w : World m) (timeout : Option Float) (h : Host) : m (Host × HostEnd) := do
  match ← w.now with
  | .error o => return (h, o.ending)
  | .ok now => (h.startAt now).loop w timeout w.patience

end Host
end TickMachine
