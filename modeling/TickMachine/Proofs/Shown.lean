import TickMachine.Proofs.Atomicity

namespace TickMachine

/-- A reply ends with a snapshot of the machine that it leaves, or it shows nothing and leaves the
machine as it was. -/
def Reply.Candid {α : Type} (r : Reply Scheduler Failure α) (before : Machine) : Prop :=
  ∃ quiet : List Signal, (∀ t ∈ quiet, t.isSnapshot = false) ∧
    (r.signals = quiet ++ Scheduler.snapshot r.state.machine ∨
      r.signals = quiet ∧ r.state.machine = before)

theorem Display.acceptAll_snapshot (d : Display) (quiet : List Signal) (m : Machine) :
    (d.acceptAll (quiet ++ Scheduler.snapshot m)).registers = m.registers.dump ∧
      (d.acceptAll (quiet ++ Scheduler.snapshot m)).memory = m.memory.dump := by
  rw [acceptAll_append]
  exact ⟨rfl, rfl⟩

namespace Scheduler

variable (s : Scheduler)

theorem loading_signals (source : String) : ∀ t ∈ loading source, t.isSnapshot = false := by
  intro t ht
  simp only [loading, List.mem_append, List.mem_map, List.mem_singleton] at ht
  rcases ht with (⟨_, _, rfl⟩ | ⟨_, _, rfl⟩) | rfl <;> rfl

theorem candid_start (source : Source) (rate : RateControl) :
    (s.start source rate).Candid s.machine := by
  unfold start
  cases source.read with
  | error e => exact ⟨[started], by simp [started, Signal.isSnapshot], .inr ⟨rfl, rfl⟩⟩
  | ok text =>
    have hquiet : ∀ t ∈ started :: loading text, t.isSnapshot = false :=
      List.forall_mem_cons.mpr ⟨rfl, loading_signals text⟩
    cases rate.interval with
    | error e => exact ⟨started :: loading text, hquiet, .inr ⟨rfl, rfl⟩⟩
    | ok interval =>
      refine ⟨started :: loading text ++ [delaySet interval], ?_, .inl ?_⟩
      · exact List.forall_mem_append.mpr ⟨hquiet, List.forall_mem_singleton.mpr rfl⟩
      · rw [List.append_assoc]
        rfl

theorem candid_stop : s.stop.Candid s.machine := by
  unfold stop
  split
  · exact ⟨[.event "CPU Stopped."], by simp [Signal.isSnapshot], .inr ⟨rfl, rfl⟩⟩
  · exact ⟨[], List.forall_mem_nil _, .inr ⟨rfl, rfl⟩⟩

theorem candid_halt : s.halt.Candid s.machine := by
  unfold halt
  split
  · exact ⟨[haltedAt s.pc], by simp [haltedAt, Signal.debug, Signal.isSnapshot], .inr ⟨rfl, rfl⟩⟩
  · exact ⟨[], List.forall_mem_nil _, .inr ⟨rfl, rfl⟩⟩

theorem candid_reset : s.reset.Candid s.machine := ⟨[], List.forall_mem_nil _, .inl rfl⟩

theorem candid_refresh : s.refresh.Candid s.machine := ⟨[], List.forall_mem_nil _, .inl rfl⟩

/-- The slots without a snapshot are those that have changed no cell: one past the end of the
program, and one whose step fails. -/
theorem candid_executeNext : s.executeNext.Candid s.machine := by
  have hquiet := s.cpu.step_shows_nothing s.pc
  obtain ⟨_, _, hr⟩ | ⟨_, hr⟩ |
      ⟨_, signals, ⟨e, hstep, hr⟩ | ⟨hstep, hr⟩ | ⟨cpu, next, hstep, hr⟩⟩ :=
    s.executeNext_cases
  · rw [hr]
    exact ⟨[.event "Program finished.", haltedAt s.pc],
      by simp [haltedAt, Signal.debug, Signal.isSnapshot], .inr ⟨rfl, rfl⟩⟩
  · rw [hr]
    exact ⟨[.event "Program finished."], List.forall_mem_singleton.mpr rfl, .inr ⟨rfl, rfl⟩⟩
  · rw [hstep] at hquiet
    rw [hr]
    exact ⟨signals, hquiet, .inr ⟨rfl, rfl⟩⟩
  · rw [hstep] at hquiet
    rw [hr]
    refine ⟨signals ++ [haltedAt s.pc], ?_, .inl ?_⟩
    · exact List.forall_mem_append.mpr ⟨hquiet, List.forall_mem_singleton.mpr rfl⟩
    · rw [List.append_assoc]
      rfl
  · rw [hstep] at hquiet
    rw [hr]
    exact ⟨signals, hquiet, .inl rfl⟩

theorem candid_restartTimer {r : Reply Scheduler Failure Unit} {m : Machine} (h : r.Candid m) :
    (restartTimer r).Candid m := by
  match r, h with
  | ⟨_, _, .error _⟩, h => exact h
  | ⟨_, _, .ok _⟩, h => exact h

theorem candid_tick (elapsed : Number) : (s.tick elapsed).Candid s.machine := by
  obtain ⟨_, ht⟩ | ⟨_, _, ht⟩ | ⟨_, seconds, _, ⟨_, ht⟩ | ⟨_, ht⟩⟩ := s.tick_cases elapsed
  · rw [ht]
    exact ⟨[], List.forall_mem_nil _, .inr ⟨rfl, rfl⟩⟩
  · rw [ht]
    exact ⟨[], List.forall_mem_nil _, .inr ⟨rfl, rfl⟩⟩
  · rw [ht]
    exact ⟨[], List.forall_mem_nil _, .inr ⟨rfl, rfl⟩⟩
  · rw [ht]
    exact candid_restartTimer (s.addTime seconds).candid_executeNext

end Scheduler

/-- Whether an operation writes a cell without the scheduler. -/
def Operation.writesCell : Operation → Bool
  | .setRegister .. | .setMemory .. => true
  | _ => false

namespace Session

/-- What is shown is what is there. -/
structure Truthful (s : Session) : Prop where
  registers : s.display.registers = s.scheduler.machine.registers.dump
  memory : s.display.memory = s.scheduler.machine.memory.dump

variable {s : Session} {op : Operation}

theorem truthful_absorb {α : Type} {r : Reply Scheduler Failure α} (h : s.Truthful)
    (hr : r.Candid s.scheduler.machine) : (s.absorb r).session.Truthful := by
  obtain ⟨quiet, hquiet, hshown | ⟨hsilent, hmachine⟩⟩ := hr
  · obtain ⟨hregisters, hmemory⟩ := s.display.acceptAll_snapshot quiet r.state.machine
    rw [← hshown] at hregisters hmemory
    exact ⟨hregisters, hmemory⟩
  · obtain ⟨hregisters, hmemory⟩ := s.display.acceptAll_shown hquiet
    rw [← hsilent] at hregisters hmemory
    have hcells : (s.absorb r).session.scheduler.machine = s.scheduler.machine := hmachine
    refine ⟨?_, ?_⟩
    · rw [hcells, ← h.registers]
      exact hregisters
    · rw [hcells, ← h.memory]
      exact hmemory

theorem truthful_of_controls {source : Source} {rate : RateControl} (h : s.Truthful) :
    { s with source, rate : Session }.Truthful := ⟨h.registers, h.memory⟩

theorem truthful_perform (h : s.Truthful) (hop : op.writesCell = false) :
    (s.perform op).session.Truthful := by
  match op, hop with
  | .start, _ => exact truthful_absorb h (s.scheduler.candid_start s.source s.rate)
  | .stop, _ => exact truthful_absorb h s.scheduler.candid_stop
  | .reset, _ => exact truthful_absorb h s.scheduler.candid_reset
  | .halt, _ => exact truthful_absorb h s.scheduler.candid_halt
  | .refresh, _ => exact truthful_absorb h s.scheduler.candid_refresh
  | .executeNext, _ => exact truthful_absorb h s.scheduler.candid_executeNext
  | .tick elapsed, _ => exact truthful_absorb h (s.scheduler.candid_tick elapsed)
  | .setText text, _ =>
    show (s.setText text).Truthful
    unfold setText
    split
    · exact truthful_of_controls h
    · exact h
  | .setFile contents, _ =>
    show (s.setFile contents).Truthful
    unfold setFile
    split
    · exact truthful_of_controls h
    · exact h
  | .setRate value, _ =>
    show (s.setRate value).Truthful
    unfold setRate
    split
    · exact truthful_of_controls h
    · exact h
  -- A frame pushed from outside lies on the stack, which no snapshot shows.
  | .push index, _ => exact ⟨h.registers, h.memory⟩

theorem truthful_performAll {ops : List Operation} (h : s.Truthful)
    (hops : ∀ op ∈ ops, op.writesCell = false) : (s.performAll ops).Truthful := by
  induction ops generalizing s with
  | nil => exact h
  | cons op rest ih =>
    have hfirst : (s.perform op).session.Truthful := truthful_perform h (hops op List.mem_cons_self)
    apply ih hfirst
    intro op' hop'
    exact hops op' (List.mem_cons_of_mem op hop')

theorem truthful_refresh (s : Session) : s.refresh.session.Truthful := ⟨rfl, rfl⟩

end Session

/-- A new session shows its machine, and from then on, whatever it is told and however each
operation ends, its display shows the cells as they are. The same goes for a session on a machine
that is in use already, once it has been shown. -/
theorem display_shows_machine (ops : List Operation)
    (hops : ∀ op ∈ ops, op.writesCell = false) :
    (∀ (source : Source) (rate : RateControl) (d : Display),
      ((Session.onDisplay source rate d).session.performAll ops).Truthful) ∧
    ∀ s : Session, (s.refresh.session.performAll ops).Truthful := by
  refine ⟨?_, ?_⟩
  · intro source rate d
    exact Session.truthful_performAll ⟨rfl, rfl⟩ hops
  · intro s
    exact Session.truthful_performAll s.truthful_refresh hops

def Operation.assorted : List Operation :=
  [.start, .tick (.int 1), .push 5, .setRate (.int 2), .setFile (.ok [0xFF]), .start,
   .tick (.int 1)]

/-- The second start fails after the first tick has written; what is shown is not all zero. -/
theorem display_shows_machine_assorted :
    let opened := (Session.onDisplay (.file (.ok "IMM 3 300".toUTF8.toList)) (.fixed .default)
      (.blank true (some 2))).session
    (∀ op ∈ Operation.assorted, op.writesCell = false) ∧
      (opened.performAll Operation.assorted).Truthful ∧
      (opened.performAll Operation.assorted).display.registers = [0, 0, 0, 44, 0, 0, 0, 0] ∧
      (opened.performAll Operation.assorted).scheduler.runState = .halted := by
  intro opened
  have hops : ∀ op ∈ Operation.assorted, op.writesCell = false := by decide
  have hshown := (display_shows_machine Operation.assorted hops).1
    (.file (.ok "IMM 3 300".toUTF8.toList)) (.fixed .default) (.blank true (some 2))
  exact ⟨hops, hshown, by decide +kernel, by decide +kernel⟩

end TickMachine
