import TickMachine.Proofs.Turns

namespace TickMachine

namespace Machine

/-- A machine becomes another by one effect or one reset, or stays what it is. -/
inductive Stride (m : Machine) : Machine → Prop where
  | stay : Stride m m
  | effect (e : Effect) (index : Int) : Stride m (e.apply index m)
  | reset : Stride m m.reset

/-- A machine becomes another by effects and resets. -/
inductive Becomes (m : Machine) : Machine → Prop where
  | refl : Becomes m m
  | effect {m' : Machine} (h : Becomes m m') (e : Effect) (index : Int) :
      Becomes m (e.apply index m')
  | reset {m' : Machine} (h : Becomes m m') : Becomes m m'.reset

theorem Becomes.trans {m m' m'' : Machine} (h : m.Becomes m') (h' : m'.Becomes m'') :
    m.Becomes m'' := by
  induction h' with
  | refl => exact h
  | effect _ e index ih => exact ih.effect e index
  | reset _ ih => exact ih.reset

theorem Stride.becomes {m m' : Machine} (h : m.Stride m') : m.Becomes m' := by
  cases h with
  | stay => exact .refl
  | effect e index => exact Becomes.refl.effect e index
  | reset => exact Becomes.refl.reset

theorem stride_of_setRegister {m m' : Machine} {index value : Int}
    (h : m.setRegister index value = .ok m') : m.Stride m' := by
  obtain ⟨registers, hset, rfl⟩ := Except.map_eq_ok h
  obtain ⟨place, _, rfl⟩ := Except.map_eq_ok hset
  exact .effect (.setRegister place (.ofInt value)) 0

theorem stride_of_setMemory {m m' : Machine} {index value : Int}
    (h : m.setMemory index value = .ok m') : m.Stride m' := by
  obtain ⟨memory, hset, rfl⟩ := Except.map_eq_ok h
  obtain ⟨place, _, rfl⟩ := Except.map_eq_ok hset
  exact .effect (.setMemory place (.ofInt value)) 0

theorem stride_push (m : Machine) (index : Int) : m.Stride (m.push index) := by
  have h : m.Stride ((Effect.call 0).apply (index - 1) m) := .effect (.call 0) (index - 1)
  rwa [Effect.apply, Int.sub_add_cancel] at h

end Machine

theorem Cpu.stride_step (c : Cpu) (index : Int) :
    c.machine.Stride (c.step index).state.machine := by
  obtain h | ⟨i, e, _, _, h, _⟩ := c.step_cases index
  · rw [h]
    exact .stay
  · rw [h]
    exact .effect e index

namespace Scheduler

theorem stride_executeNext (s : Scheduler) : s.machine.Stride s.executeNext.state.machine := by
  rw [machine, machine, cpu_executeNext]
  split
  · exact s.cpu.stride_step s.pc
  · exact .stay

theorem stride_tick (s : Scheduler) (elapsed : Number) :
    s.machine.Stride (s.tick elapsed).state.machine := by
  rw [machine, machine]
  obtain hcpu | hcpu := s.cpu_of_tick elapsed
  · rw [hcpu]
    exact .stay
  · rw [hcpu]
    exact s.stride_executeNext

theorem machine_start (s : Scheduler) (source : Source) (rate : RateControl) :
    (s.start source rate).state.machine = s.machine := by
  unfold start
  cases source.read with
  | error e => rfl
  | ok text => cases rate.interval <;> rfl

theorem machine_stop (s : Scheduler) : s.stop.state.machine = s.machine := by
  unfold stop
  split <;> rfl

theorem machine_halt (s : Scheduler) : s.halt.state.machine = s.machine := by
  unfold halt
  split <;> rfl

end Scheduler

namespace Session

theorem scheduler_of_surroundings (s : Session) {op : Operation} (hop : op.ofScheduler = false) :
    ∃ m, s.scheduler.machine.Stride m ∧
      (s.perform op).session.scheduler = (s.withMachine m).scheduler := by
  match op, hop with
  | .setText text, _ =>
    refine ⟨_, .stay, ?_⟩
    change (s.setText text).scheduler = s.scheduler
    unfold setText
    split <;> rfl
  | .setFile contents, _ =>
    refine ⟨_, .stay, ?_⟩
    change (s.setFile contents).scheduler = s.scheduler
    unfold setFile
    split <;> rfl
  | .setRate value, _ =>
    refine ⟨_, .stay, ?_⟩
    change (s.setRate value).scheduler = s.scheduler
    unfold setRate
    split <;> rfl
  | .setRegister index value, _ =>
    simp only [perform, answered]
    cases h : s.scheduler.machine.setRegister index value with
    | error f => exact ⟨_, .stay, rfl⟩
    | ok m => exact ⟨m, Machine.stride_of_setRegister h, rfl⟩
  | .setMemory index value, _ =>
    simp only [perform, answered]
    cases h : s.scheduler.machine.setMemory index value with
    | error f => exact ⟨_, .stay, rfl⟩
    | ok m => exact ⟨m, Machine.stride_of_setMemory h, rfl⟩
  | .push index, _ => exact ⟨_, s.scheduler.machine.stride_push index, rfl⟩

theorem stride_perform (s : Session) (op : Operation) :
    s.scheduler.machine.Stride (s.perform op).session.scheduler.machine := by
  cases hop : op.ofScheduler with
  | false =>
    obtain ⟨m, hm, hscheduler⟩ := s.scheduler_of_surroundings hop
    rw [hscheduler]
    exact hm
  | true =>
    match op, hop with
    | .start, _ =>
      change s.scheduler.machine.Stride (s.scheduler.start s.source s.rate).state.machine
      rw [Scheduler.machine_start]
      exact .stay
    | .stop, _ =>
      change s.scheduler.machine.Stride s.scheduler.stop.state.machine
      rw [Scheduler.machine_stop]
      exact .stay
    | .reset, _ => exact .reset
    | .halt, _ =>
      change s.scheduler.machine.Stride s.scheduler.halt.state.machine
      rw [Scheduler.machine_halt]
      exact .stay
    | .refresh, _ => exact .stay
    | .executeNext, _ => exact s.scheduler.stride_executeNext
    | .tick elapsed, _ => exact s.scheduler.stride_tick elapsed

theorem becomes_performAll (s : Session) (ops : List Operation) :
    s.scheduler.machine.Becomes (s.performAll ops).scheduler.machine := by
  induction ops generalizing s with
  | nil => exact .refl
  | cons op rest ih => exact (s.stride_perform op).becomes.trans (ih (s.perform op).session)

end Session

namespace Machine

/-- The banks are what they were built as. -/
structure Shaped (m : Machine) : Prop where
  registerKind : m.registers.kind = .registers
  registerCount : m.registers.size = Hardware.registerCount
  memoryKind : m.memory.kind = .memory
  memorySize : m.memory.size = Hardware.memorySize

theorem shaped_initial : initial.Shaped := ⟨rfl, rfl, rfl, rfl⟩

theorem Shaped.apply {m : Machine} (h : m.Shaped) (e : Effect) (index : Int) :
    (e.apply index m).Shaped := by
  cases e with
  | setRegister place value =>
    exact ⟨h.registerKind, (Bank.size_write ..).trans h.registerCount, h.memoryKind, h.memorySize⟩
  | setMemory place value =>
    exact ⟨h.registerKind, h.registerCount, h.memoryKind, (Bank.size_write ..).trans h.memorySize⟩
  | jump target => exact h
  | call target => exact ⟨h.registerKind, h.registerCount, h.memoryKind, h.memorySize⟩
  | ret target => exact ⟨h.registerKind, h.registerCount, h.memoryKind, h.memorySize⟩

theorem Shaped.reset {m : Machine} (h : m.Shaped) : m.reset.Shaped :=
  ⟨h.registerKind, (Bank.size_clear _).trans h.registerCount, h.memoryKind,
    (Bank.size_clear _).trans h.memorySize⟩

theorem Becomes.shaped {m m' : Machine} (h : m.Becomes m') (hm : m.Shaped) : m'.Shaped := by
  induction h with
  | refl => exact hm
  | effect _ e index ih => exact ih.apply e index
  | reset _ ih => exact ih.reset

end Machine

theorem Session.shaped_performAll {s : Session} (h : s.scheduler.machine.Shaped)
    (ops : List Operation) : (s.performAll ops).scheduler.machine.Shaped :=
  (s.becomes_performAll ops).shaped h

end TickMachine
