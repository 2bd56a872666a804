import TickMachine.Proofs.RunState

namespace TickMachine

/-- The same machine with a stack that has once been as deep as this. -/
def Machine.deepened (m : Machine) (depth : Nat) : Machine :=
  { m with stack := { m.stack with maxDepth := max depth m.stack.maxDepth } }

section Deepened

variable (depth : Nat)

theorem Instruction.effect_deepened (i : Instruction) (p : Program) (m : Machine) :
    i.effect p (m.deepened depth) = i.effect p m := rfl

theorem Effect.apply_deepened (e : Effect) (index : Int) (m : Machine) :
    e.apply index (m.deepened depth) = (e.apply index m).deepened depth := by
  cases e with
  | call target =>
    have hmax : max (max depth m.stack.maxDepth) (m.stack.depth + 1) =
        max depth (max m.stack.maxDepth (m.stack.depth + 1)) := Nat.max_assoc ..
    simp only [apply, Machine.push, CallStack.push, Machine.deepened]
    exact congrArg (fun k => { m with stack := ⟨(index + 1) :: m.stack.frames, k⟩ }) hmax
  | setRegister place value => rfl
  | setMemory place value => rfl
  | jump target => rfl
  | ret target => rfl

/-- All that is left of the past of a machine after a reset is its greatest depth. -/
theorem Machine.reset_of_shaped {m : Machine} (h : m.Shaped) :
    m.reset = initial.deepened m.stack.maxDepth := by
  have hregisters : m.registers.clear = initial.registers := by
    rw [Bank.clear, h.registerKind, h.registerCount]
    rfl
  have hmemory : m.memory.clear = initial.memory := by
    rw [Bank.clear, h.memoryKind, h.memorySize]
    rfl
  have hstack : m.stack.clear = (initial.deepened m.stack.maxDepth).stack := by
    change CallStack.mk [] m.stack.maxDepth = CallStack.mk [] (max m.stack.maxDepth 0)
    rw [Nat.max_zero]
  rw [reset, hregisters, hmemory, hstack]
  rfl

end Deepened

namespace Cpu

/-- A processor against one that has a past: it once was at `line`, with a stack of `depth`. The
line is forgotten with the next step. -/
structure Past (depth : Nat) (line : Int) (c d : Cpu) : Prop where
  program : c.program = d.program
  machine : c.machine = d.machine.deepened depth
  index : c.index = d.index ∨ c.index = line ∧ d.index = 0

variable {depth : Nat} {line : Int} {c d : Cpu}

theorem Past.worked (h : Past depth line c d) (index : Int) (i : Instruction) :
    (c.worked index i).1 = (d.worked index i).1 ∧
      (c.worked index i).2 = (d.worked index i).2.deepened depth := by
  unfold Cpu.worked
  rw [h.program, h.machine, Instruction.effect_deepened]
  cases i.effect d.program d.machine with
  | error t => exact ⟨rfl, rfl⟩
  | ok e => exact ⟨rfl, e.apply_deepened depth index d.machine⟩

theorem Past.moveTo (h : Past depth line c d) (index : Int) :
    Past depth line (c.moveTo index) (d.moveTo index) := ⟨h.program, h.machine, .inl rfl⟩

theorem Past.execute (h : Past depth line c d) (index : Int) (text : String) :
    Reply.Alike (Past depth line) ((c.moveTo index).execute text)
      ((d.moveTo index).execute text) := by
  cases hd : Instruction.decode text with
  | error f =>
    simp only [Cpu.execute, hd]
    exact ⟨h.moveTo index, rfl, rfl⟩
  | ok i =>
    obtain ⟨hresult, hmachine⟩ := h.worked index i
    rw [execute_of_decode hd, execute_of_decode hd]
    exact ⟨⟨h.program, hmachine, .inl rfl⟩, rfl, hresult⟩

theorem Past.step (h : Past depth line c d) (index : Int) :
    Reply.Alike (Past depth line) (c.step index) (d.step index) := by
  apply step_alike _ (h.moveTo index) (h.execute index)
  rw [h.program]
  cases hline : d.program.lineAt index with
  | error e => exact .inl ⟨e, rfl, rfl⟩
  | ok text => exact .inr ⟨text, text, rfl, rfl, rfl⟩

end Cpu

/-- Two displays that show the same and have logged the same events, each after a log of its own. -/
structure Display.SameSince (log log' : LogBuffer) (d e : Display) : Prop where
  registers : d.registers = e.registers
  memory : d.memory = e.memory
  events : ∃ messages : List String, d.events = messages.foldl LogBuffer.append log ∧
    e.events = messages.foldl LogBuffer.append log'

theorem Display.SameSince.accept {log log' : LogBuffer} {d e : Display}
    (h : SameSince log log' d e) (signal : Signal) :
    SameSince log log' (d.accept signal) (e.accept signal) := by
  cases signal with
  | event message =>
    obtain ⟨messages, hd, he⟩ := h.events
    refine ⟨h.registers, h.memory, messages ++ [message], ?_, ?_⟩
    · rw [List.foldl_append, ← hd]
      rfl
    · rw [List.foldl_append, ← he]
      rfl
  | record r => exact h
  | registers values => exact ⟨rfl, h.memory, h.events⟩
  | memory values => exact ⟨h.registers, rfl, h.events⟩

/-- A used session beside a new one on the same source. -/
def Bisimulation.renewal (depth : Nat) (line : Int) (log log' : LogBuffer) : Bisimulation where
  cpu := Cpu.Past depth line
  source := Eq
  display := Display.SameSince log log'
  size h := by rw [h.program]
  snapshot h := by rw [h.machine]; rfl
  step h index := h.step index
  reset h := ⟨h.program, by rw [h.machine]; rfl, h.index⟩
  read := by
    rintro a _ rfl
    cases ha : a.read with
    | error e => exact .inl ⟨e, rfl, rfl⟩
    | ok x => exact .inr ⟨x, x, rfl, rfl, rfl, fun h => ⟨rfl, h.machine, h.index⟩⟩
  accept h signal := h.accept signal

namespace Session

/-- A used session is as a new one, but for what it was before: the greatest depth is that of
either, the events so far stand in the log, and the line executed last is known until there is
another. -/
structure AsNew (before opened used new : Session) : Prop where
  runState : used.runState = new.runState
  pc : used.scheduler.pc = new.scheduler.pc
  interval : used.scheduler.interval = new.scheduler.interval
  timer : used.scheduler.timer = new.scheduler.timer
  program : used.scheduler.program = new.scheduler.program
  registers : used.scheduler.machine.registers = new.scheduler.machine.registers
  memory : used.scheduler.machine.memory = new.scheduler.machine.memory
  frames : used.scheduler.machine.stack.frames = new.scheduler.machine.stack.frames
  maxDepth : used.scheduler.machine.stack.maxDepth =
    max before.scheduler.machine.stack.maxDepth new.scheduler.machine.stack.maxDepth
  index : used.scheduler.cpu.index = new.scheduler.cpu.index ∨
    used.scheduler.cpu.index = before.scheduler.cpu.index ∧ new.scheduler.cpu.index = 0
  display : used.display.SameSince before.display.events opened.display.events new.display

/-- The relation between a session that was `before` and one that was just `opened`. -/
def renewal (before opened : Session) : Bisimulation :=
  .renewal before.scheduler.machine.stack.maxDepth before.scheduler.cpu.index
    before.display.events opened.display.events

variable {before opened : Session}

theorem asNew_of_renewal {used new : Session} (h : (renewal before opened).Sessions used new) :
    AsNew before opened used new := by
  obtain ⟨hscheduler, -, -, hdisplay⟩ := h
  have hmachine : used.scheduler.machine =
      new.scheduler.machine.deepened before.scheduler.machine.stack.maxDepth :=
    hscheduler.cpu.machine
  refine ⟨hscheduler.runState, hscheduler.pc, hscheduler.interval, hscheduler.timer,
    hscheduler.cpu.program, ?_, ?_, ?_, ?_, hscheduler.cpu.index, hdisplay⟩
  · rw [hmachine]
    rfl
  · rw [hmachine]
    rfl
  · rw [hmachine]
    rfl
  · rw [hmachine]
    rfl

theorem start_eq_absorb {s : Session} {text : String} {seconds : Float}
    (hsource : s.source.read = .ok text) (hrate : s.rate.interval = .ok seconds) :
    s.start = s.absorb ⟨(s.scheduler.load text).begin seconds,
      Scheduler.started :: Scheduler.loading text ++
        Scheduler.delaySet seconds :: Scheduler.snapshot s.scheduler.machine, .ok ()⟩ := by
  rw [start, Scheduler.start, hsource, hrate]
  rfl

theorem result_start_congr {s t : Session} (hsource : s.source = t.source)
    (hrate : s.rate = t.rate) : s.start.result = t.start.result := by
  change (s.scheduler.start s.source s.rate).result = (t.scheduler.start t.source t.rate).result
  rw [hsource, hrate]
  unfold Scheduler.start
  cases t.source.read with
  | error e => rfl
  | ok text => cases t.rate.interval <;> rfl

/-- Reset takes back all of the past but its depth, and start puts the same program in the place of
whatever was loaded. -/
theorem renewal_of_start (hshaped : before.scheduler.machine.Shaped) {d : Display}
    (hopened : opened = (onDisplay before.source before.rate d).session)
    (hstart : opened.start.result = .ok ()) :
    (renewal before opened).Sessions before.reset.session.start.session opened.start.session := by
  obtain ⟨text, seconds, htext, hinterval, -⟩ := Scheduler.start_eq_ok hstart
  have hsource : before.source = opened.source := by rw [hopened]; rfl
  have hrate : before.rate = opened.rate := by rw [hopened]; rfl
  have hscheduler : opened.scheduler = .initial := by rw [hopened]; rfl
  have hmachine : before.reset.session.scheduler.machine =
      opened.scheduler.machine.deepened before.scheduler.machine.stack.maxDepth := by
    rw [hscheduler]
    exact Machine.reset_of_shaped hshaped
  have hsnapshot : Scheduler.snapshot before.reset.session.scheduler.machine =
      Scheduler.snapshot opened.scheduler.machine := by
    rw [hmachine]
    rfl
  -- Before the start the two displays show the same: a machine whose cells are all zero.
  have hshown : before.reset.session.display.SameSince before.display.events opened.display.events
      opened.display := by
    have hcells : opened.display.registers = opened.scheduler.machine.registers.dump ∧
        opened.display.memory = opened.scheduler.machine.memory.dump := by
      rw [hopened]
      exact ⟨rfl, rfl⟩
    refine ⟨?_, ?_, [], rfl, rfl⟩
    · rw [hcells.1]
      exact congrArg (fun m => m.registers.dump) hmachine
    · rw [hcells.2]
      exact congrArg (fun m => m.memory.dump) hmachine
  rw [start_eq_absorb (s := opened) htext hinterval,
    start_eq_absorb (s := before.reset.session) (hsource ▸ htext) (hrate ▸ hinterval), hsnapshot]
  refine ⟨⟨⟨rfl, hmachine, .inr ⟨rfl, ?_⟩⟩, rfl, rfl, rfl, ?_⟩, hsource, hrate, ?_⟩
  · rw [hscheduler]
    rfl
  · rw [hscheduler]
    rfl
  · exact Bisimulation.display_absorb (B := renewal before opened) hshown rfl

end Session

/-- After a reset and a start, a session with any past goes on as a new one on the same source and
rate does, whatever is done with the two: every operation ends in the same way and leaves the same
run state, program, cells and frames and the same things shown. Only the greatest depth and the log
from before the reset may differ. -/
theorem renewed_as_new (source : Source) (rate : RateControl) (d d' : Display)
    (past ops : List Operation) (hops : ∀ op ∈ ops, op.ofScheduler = true) :
    let before := (Session.onDisplay source rate d).session.performAll past
    let opened := (Session.onDisplay before.source before.rate d').session
    before.reset.result = .ok () ∧
    before.reset.session.start.result = opened.start.result ∧
    (opened.start.result = .ok () →
      Session.AsNew before opened before.reset.session.start.session opened.start.session ∧
      List.Forall₂ (fun t u => t.result = u.result ∧
          Session.AsNew before opened t.session u.session)
        (before.reset.session.start.session.turns ops) (opened.start.session.turns ops)) := by
  intro before opened
  have hshaped : before.scheduler.machine.Shaped :=
    Session.shaped_performAll (s := (Session.onDisplay source rate d).session)
      Machine.shaped_initial past
  refine ⟨rfl, Session.result_start_congr rfl rfl, ?_⟩
  intro hstart
  have hrelated := Session.renewal_of_start hshaped rfl hstart
  refine ⟨Session.asNew_of_renewal hrelated, ?_⟩
  apply (Bisimulation.turns_related hrelated hops).imp
  intro t u h
  exact ⟨h.result, Session.asNew_of_renewal h.session⟩

def descendingSource : Source := .text "JMP 10 1\nJMP 10 2\nNOT 3"

/-- The used session has been two calls deep and has written a cell; the new one makes its first
call while it is watched. -/
theorem renewed_as_new_descending :
    let rate := RateControl.fixed (.ofNumber (.int 2))
    let first := (Session.onDisplay descendingSource rate (.blank false (some 2))).session
    let before := first.performAll [.start, .tick (.int 1), .tick (.int 1), .tick (.int 1)]
    let opened := (Session.onDisplay before.source before.rate (.blank false none)).session
    before.scheduler.machine.stack.maxDepth = 2 ∧
    before.display.registers = [0, 0, 0, 255, 0, 0, 0, 0] ∧
    opened.start.result = .ok () ∧
    List.Forall₂ (fun t u => t.result = u.result ∧ Session.AsNew before opened t.session u.session)
      (before.reset.session.start.session.turns [.tick (.int 1), .executeNext, .start])
      (opened.start.session.turns [.tick (.int 1), .executeNext, .start]) := by
  intro rate first before opened
  have hstart : opened.start.result = .ok () := by decide +kernel
  obtain ⟨-, -, h⟩ := renewed_as_new descendingSource rate (.blank false (some 2))
    (.blank false none) [.start, .tick (.int 1), .tick (.int 1), .tick (.int 1)]
    [.tick (.int 1), .executeNext, .start] (by decide)
  exact ⟨by decide +kernel, by decide +kernel, hstart, (h hstart).2⟩

end TickMachine
