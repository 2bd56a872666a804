import TickMachine.Proofs.LoadLine
import TickMachine.Proofs.Slot

namespace TickMachine

/-- Whether a signal replaces one of the two shown snapshots. -/
def Signal.isSnapshot : Signal → Bool
  | .registers _ | .memory _ => true
  | .event _ | .record _ => false

theorem Display.acceptAll_shown {signals : List Signal} (d : Display)
    (h : ∀ s ∈ signals, s.isSnapshot = false) :
    (d.acceptAll signals).registers = d.registers ∧ (d.acceptAll signals).memory = d.memory := by
  induction signals generalizing d with
  | nil => exact ⟨rfl, rfl⟩
  | cons s rest ih =>
    have hrest := ih (d.accept s) fun t ht => h t (List.mem_cons_of_mem s ht)
    have hs := h s List.mem_cons_self
    cases s with
    | event message => exact hrest
    | record r => exact hrest
    | registers values => cases hs
    | memory values => cases hs

namespace Cpu

/-- A statement that traps leaves the processor as it was, whatever it did before the trap. -/
theorem execute_state_of_trap {c : Cpu} {text : String} {t : Trap}
    (h : (c.execute text).result = .error t) : (c.execute text).state = c := by
  unfold execute at *
  cases hd : Instruction.decode text with
  | error f => rfl
  | ok i =>
    simp only [hd, Instruction.on_handle] at h ⊢
    cases he : i.effect c.program c.machine with
    | error t' => rfl
    | ok e => simp [he, Effect.commit] at h

theorem step_state_of_trap {c : Cpu} {index : Int} {line : String} {t : Trap}
    (hl : c.program.lineAt index = .ok line)
    (ht : ((c.moveTo index).execute (Text.trim line)).result = .error t) :
    (c.step index).state = c.moveTo index := by
  simp only [step, hl, visit]
  split
  · rfl
  · split
    · rfl
    · simp only [conclude, execute_state_of_trap ht]

theorem execute_signals (c : Cpu) (text : String) :
    ∀ s ∈ (c.execute text).signals, ∃ message, s = .debug message := by
  unfold execute
  cases Instruction.decode text with
  | error f => simp
  | ok i => simp [executing]

theorem remark_signals (r : Except Trap (Option Int)) :
    ∀ s ∈ remark r, ∃ message, s = .event message := by
  unfold remark
  split <;> simp

theorem step_signals (c : Cpu) (index : Int) :
    ∀ s ∈ (c.step index).signals,
      (∃ message, s = .event message) ∨ ∃ message, s = .debug message := by
  intro s hs
  unfold step visit at hs
  split at hs
  · simp at hs
  · split at hs
    · simp at hs
    · split at hs
      · simp only [List.mem_singleton] at hs
        exact .inl ⟨_, hs⟩
      · simp only [conclude, List.mem_append, List.mem_cons, List.not_mem_nil, or_false] at hs
        obtain ((rfl | hs) | hs) | rfl := hs
        · exact .inl ⟨_, rfl⟩
        · exact .inr (execute_signals _ _ s hs)
        · exact .inl (remark_signals _ s hs)
        · exact .inr ⟨_, rfl⟩

theorem step_shows_nothing (c : Cpu) (index : Int) :
    ∀ s ∈ (c.step index).signals, s.isSnapshot = false := by
  intro s hs
  obtain ⟨message, rfl⟩ | ⟨message, rfl⟩ := c.step_signals index s hs
  · rfl
  · rfl

end Cpu

namespace Session

/-- What an operation that fails has to leave alone. -/
structure Spared (s s' : Session) : Prop where
  machine : s'.scheduler.machine = s.scheduler.machine
  program : s'.scheduler.program = s.scheduler.program
  pc : s'.scheduler.pc = s.scheduler.pc
  runState : s'.scheduler.runState = s.scheduler.runState
  interval : s'.scheduler.interval = s.scheduler.interval
  shownRegisters : s'.display.registers = s.display.registers
  shownMemory : s'.display.memory = s.display.memory

variable {s : Session} {e : Failure}

theorem spared_of_signals {scheduler : Scheduler} {signals : List Signal}
    (hmachine : scheduler.machine = s.scheduler.machine)
    (hprogram : scheduler.program = s.scheduler.program) (hpc : scheduler.pc = s.scheduler.pc)
    (hrun : scheduler.runState = s.scheduler.runState)
    (hinterval : scheduler.interval = s.scheduler.interval)
    (hsignals : ∀ t ∈ signals, t.isSnapshot = false) :
    s.Spared { s with scheduler, display := s.display.acceptAll signals } := by
  obtain ⟨hregisters, hmemory⟩ := s.display.acceptAll_shown hsignals
  exact ⟨hmachine, hprogram, hpc, hrun, hinterval, hregisters, hmemory⟩

theorem spared_of_failed_executeNext (h : s.executeNext.result = .error e) :
    s.Spared s.executeNext.session := by
  have hsignals := s.scheduler.cpu.step_shows_nothing s.scheduler.pc
  unfold executeNext absorb at *
  obtain ⟨_, _, hr⟩ | ⟨_, hr⟩ |
      ⟨_, signals, ⟨e', hstep, hr⟩ | ⟨_, hr⟩ | ⟨cpu, next, _, hr⟩⟩ :=
    s.scheduler.executeNext_cases
  · simp [hr] at h
  · rw [hr]
    exact spared_of_signals rfl rfl rfl rfl rfl (List.forall_mem_singleton.mpr rfl)
  -- A step that fails has moved the index of the processor and nothing else.
  · rw [hstep] at hsignals
    rw [hr]
    exact spared_of_signals rfl rfl rfl rfl rfl hsignals
  · simp [hr] at h
  · simp [hr] at h

/-- A failing tick leaves its time on the timer; all else is as for the slot. -/
theorem spared_of_failed_tick {elapsed : Number} (h : (s.tick elapsed).result = .error e) :
    s.Spared (s.tick elapsed).session := by
  unfold tick absorb at *
  obtain ⟨_, ht⟩ | ⟨_, _, ht⟩ | ⟨_, seconds, _, ⟨_, ht⟩ | ⟨_, ht⟩⟩ := s.scheduler.tick_cases elapsed
  · simp [ht] at h
  · rw [ht]
    exact spared_of_signals rfl rfl rfl rfl rfl nofun
  · simp [ht] at h
  · rw [ht] at h ⊢
    have hfails := Scheduler.restartTimer_eq_error_iff.mp h
    obtain ⟨hstate, hsignals⟩ := Scheduler.restartTimer_of_error hfails
    rw [hstate, hsignals]
    -- Time is none of the things to be spared, so what the slot spares is what the tick spares.
    have hslot := spared_of_failed_executeNext
      (s := { s with scheduler := s.scheduler.addTime seconds }) hfails
    exact ⟨hslot.machine, hslot.program, hslot.pc, hslot.runState, hslot.interval,
      hslot.shownRegisters, hslot.shownMemory⟩

end Session

/-- A statement that ends in a trap leaves cells, frames and program as they were. If the trap
leaves a tick or a slot, the run and both shown snapshots stay as well. -/
theorem trapped_statement_atomic :
    (∀ (c : Cpu) (index : Int) (line : String) (t : Trap), c.program.lineAt index = .ok line →
      ((c.moveTo index).execute (Text.trim line)).result = .error t →
      (c.step index).state = c.moveTo index) ∧
    (∀ (s : Session) (elapsed : Number) (e : Failure), (s.tick elapsed).result = .error e →
      s.Spared (s.tick elapsed).session) ∧
    ∀ (s : Session) (e : Failure), s.executeNext.result = .error e →
      s.Spared s.executeNext.session := by
  refine ⟨?_, ?_, ?_⟩
  · intro c index line t hl ht
    exact Cpu.step_state_of_trap hl ht
  · intro s elapsed e h
    exact Session.spared_of_failed_tick h
  · intro s e h
    exact Session.spared_of_failed_executeNext h

/-- A call to a label that nobody declares, inside another call. -/
def Cpu.callingNowhere : Cpu := ⟨.parse "JMP 10 nowhere", Machine.initial.push 5, 0⟩

def Session.onLongRow : Session where
  scheduler :=
    { Scheduler.initial.load (loadLine (ones (Literal.maxDigits + 1))) with runState := .running }
  source := .text ""
  rate := .disconnected
  display := .blank false none

theorem trapped_statement_atomic_callingNowhere_onLongRow :
    (Cpu.callingNowhere.step 0).state = Cpu.callingNowhere ∧
    (∃ e, (Session.onLongRow.tick (.real 1.0)).result = .error e) ∧
    Session.onLongRow.Spared (Session.onLongRow.tick (.real 1.0)).session ∧
    (∃ e, Session.onLongRow.executeNext.result = .error e) ∧
    Session.onLongRow.Spared Session.onLongRow.executeNext.session := by
  obtain ⟨hstep, htick, hslot⟩ := trapped_statement_atomic
  obtain ⟨hin, hfails⟩ := step_ones (Nat.lt_succ_self Literal.maxDigits)
    (show Session.onLongRow.scheduler.cpu.program = _ from rfl) (by decide)
  have hdue : Session.onLongRow.scheduler.Due 1.0 := ⟨rfl, by decide +kernel, hin⟩
  have hlost : ¬ Session.onLongRow.scheduler.Lost := Scheduler.not_lost_of_inProgram hin
  have htickFails := (Session.onLongRow.result_tick _).trans
    ((Scheduler.tick_eq_error_iff hlost).mpr ⟨hdue, hfails⟩)
  have hslotFails := Session.onLongRow.result_executeNext.trans
    ((Scheduler.executeNext_eq_error_iff hlost).mpr ⟨hin, hfails⟩)
  refine ⟨?_, ⟨_, htickFails⟩, htick _ _ _ htickFails, ⟨_, hslotFails⟩, hslot _ _ hslotFails⟩
  exact hstep Cpu.callingNowhere 0 "JMP 10 nowhere" (.fault (.unresolved "nowhere"))
    (by decide +kernel) (by decide +kernel)

end TickMachine
