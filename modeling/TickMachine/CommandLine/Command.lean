import TickMachine.CommandLine.Host
import TickMachine.CommandLine.Options

namespace TickMachine

inductive Exit where
  | halt
  | timeout
  | interrupt
  | sourceError
deriving DecidableEq, Repr

def Exit.code : Exit → Nat
  | halt => 0
  | timeout => 2
  | interrupt => 3
  | sourceError => 100

structure Outcome where
  stdout : String
  /-- The journal, in order. -/
  records : List Record
  sleeps : Nat
  ending : Except Failure Exit

namespace Command

/-- Records below the level are left out. -/
def journalText (least : Level) (records : List Record) : String :=
  String.join ((records.filter fun r => least.severity ≤ r.level.severity).map fun r =>
    r.level.name ++ ":root:" ++ r.message ++ "\n")

def levelOf (options : Options) : Level := if options.verbose then .debug else .info

def rateOf (options : Options) : RateControl :=
  .fixed (.ofNumber ((options.rate.map Number.real).getD (.int Hardware.defaultRate)))

/-- A file that cannot be read or decoded is reported; a path that cannot be a path is not. -/
def reported? : Failure → Option SourceError
  | .source (.unreadable .embeddedNul) => none
  | .source .disconnected => none
  | .source e => some e
  | _ => none

def banner : Record := ⟨.info, "TEMU"⟩

def prepare (options : Options) (source : Source) : Turn Unit :=
  Session.onDisplay source (rateOf options) (.blank true (some Hardware.logCapacity))

def unableToLoad (path : Path) (cause : SourceError) : Record :=
  ⟨.error, "Unable to load " ++ path.text ++ ": " ++ cause.message⟩

/-- A start that failed, and the journal up to it. -/
def notStarted (path : Path) (records : List Record) (e : Failure) : Outcome :=
  match reported? e with
  | some cause => ⟨"", records ++ [unableToLoad path cause], 0, .ok .sourceError⟩
  | none => ⟨"", records, 0, .error e⟩

def ended (h : Host) (message : String) (exit : Exit) : Outcome where
  stdout := h.session.display.stateText
  records := h.records.reverse ++ [⟨.info, message⟩]
  sleeps := h.sleeps
  ending := .ok exit

def conclude (h : Host) : HostEnd → Outcome
  | .finished => ended h "Execution halted gracefully" .halt
  | .timedOut => ended h "Execution stopped on timeout" .timeout
  | .interrupted => ended h.stop "Execution halted by the user" .interrupt
  | .failed e => ⟨"", h.records.reverse, h.sleeps, .error e⟩

variable {m : Type → Type} [Monad m]

/-- Drives a session that has been started, or reports why it was not. -/
@[specialize]
def proceed (w : World m) (options : Options) (opening : List Record) : Turn Unit → m Outcome
  | ⟨_, records, .error e⟩ =>
    return notStarted (.ofString options.filename) (opening ++ records) e
  | ⟨session, records, .ok _⟩ => do
    let (h, e) ← (Host.begin session (opening ++ records).reverse).drive w options.timeout
    return conclude h e

@[specialize]
def run (w : World m) (options : Options) (source : Source) : m Outcome :=
  let prepared := prepare options source
  proceed w options (banner :: prepared.records) prepared.session.start

@[specialize]
def invoke (world : Level → World m) (args : List String) :
    m (Except UsageError (Level × Outcome)) :=
  match Request.ofArgs args with
  | .error e => return .error e
  | .ok .help => return .ok (.info, ⟨Request.helpText, [], 0, .ok .halt⟩)
  | .ok (.run options) => do
    let w := world (levelOf options)
    let source := Source.file (← w.read (.ofString options.filename))
    return .ok (levelOf options, ← run w options source)

end Command
end TickMachine
