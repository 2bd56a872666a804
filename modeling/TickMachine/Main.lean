import Mathlib
import TickMachine.CommandLine.Command

namespace TickMachine.Main

/-- The reason why the system gave no bytes, by its error number, which some calls negate. -/
def fileError (path : String) : IO.Error → FileError
  | .noFileOrDirectory .. => .notFound path
  | .permissionDenied _ code _ => numbered code
  | .inappropriateType _ code _ => numbered code
  | .invalidArgument _ code _ => numbered code
  | e => .refused (toString e)
where
  numbered (code : UInt32) : FileError :=
    match if code < 4096 then code else 0 - code with
    | 20 => .notDirectory path
    | 21 => .isDirectory path
    | 36 => .nameTooLong path
    | _ => .permissionDenied path

def readFile (path : String) : IO (Except FileError (List UInt8)) := do
  if path.toList.contains '\x00' then return .error .embeddedNul
  try return .ok (← IO.FS.readBinFile path).toList
  catch e => return .error (fileError path e)

def seconds : IO Float := do
  return (← IO.monoNanosNow).toFloat / 1e9

def report (level : Level) (records : List Record) : IO Unit := do
  IO.eprint (Command.journalText level records)

def frame : UInt32 := (Hardware.frameTime * 1000.0).toUInt32

def unlessInterrupted {α : Type} (interrupt : Std.Async.AsyncTask Int) (act : IO α) :
    IO (Except Obstacle α) := do
  if ← IO.hasFinished interrupt then return .error .interrupt
  return .ok (← act)

/-- The files, the clock and the user of the system. Records are written as they come. -/
def world (interrupt : Std.Async.AsyncTask Int) (level : Level) : World IO where
  read path := readFile path.text
  now := unlessInterrupted interrupt seconds
  heed := unlessInterrupted interrupt (return ())
  sleep := do
    IO.sleep frame
    unlessInterrupted interrupt (return ())
  journal records := do
    report level records.reverse
    return []
  -- Rounds for more than a billion years.
  patience := 1 <<< 61

/-- Prints the rest of a run; a failure is left to the caller of the program. -/
def finish (level : Level) (o : Outcome) : IO UInt32 := do
  report level o.records
  IO.print o.stdout
  match o.ending with
  | .ok exit => return exit.code.toUInt32
  | .error e =>
    IO.eprintln e.message
    return 1

def usage (e : UsageError) : IO UInt32 := do
  IO.eprintln "Usage: run [OPTIONS] SOURCE_FILENAME"
  IO.eprintln "Try 'run --help' for help."
  IO.eprintln ""
  IO.eprintln ("Error: " ++ e.message)
  return 2

end TickMachine.Main

open TickMachine in
def main (args : List String) : IO UInt32 := do
  let waiter ← Std.Async.Signal.Waiter.mk .sigint false
  let interrupt ← waiter.wait
  match ← Command.invoke (Main.world interrupt) args with
  | .error e => Main.usage e
  | .ok (level, o) => Main.finish level o
