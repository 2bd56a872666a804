import TickMachine.CommandLine.Host

namespace TickMachine

/-- A clock that stands still except in sleeps, and on which one sleep is interrupted. -/
structure Clock where
  /-- The reading after a sleep, from the number of the sleep and the reading before it. -/
  wake : Nat → Float → Except Failure Float
  /-- The number of the sleep that is interrupted; the first one is, if this is zero. -/
  interruptAfter : Nat

structure Clock.Dial where
  now : Float
  sleeps : Nat

namespace Clock

def steady (advance : Number) (interruptAfter : Nat) : Clock where
  wake _ now :=
    match advance.toFloat? with
    | some seconds => .ok (now + seconds)
    | none => .error .tooLarge
  interruptAfter

def sleep (c : Clock) (dial : Dial) : Except Obstacle Unit × Dial :=
  let number := dial.sleeps + 1
  if c.interruptAfter ≤ number then (.error .interrupt, ⟨dial.now, number⟩)
  else
    match c.wake number dial.now with
    | .error e => (.error (.failure e), ⟨dial.now, number⟩)
    | .ok now => (.ok (), ⟨now, number⟩)

/-- The surroundings of a command that runs in a folder, by this clock. The journal is left to the
end, and there is patience for as long as the clock lets the host sleep. -/
def world (c : Clock) (folder : Folder) : World (StateM Dial) where
  read path := return folder.read path
  now := return .ok (← get).now
  heed := return .ok ()
  sleep := modifyGet c.sleep
  journal records := return records
  patience := max 1 c.interruptAfter

end Clock
end TickMachine
