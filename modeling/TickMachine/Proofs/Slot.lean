import TickMachine.Session
import TickMachine.Proofs.Step

namespace TickMachine

namespace Scheduler

variable (s : Scheduler)

/-- The run is outside the program, at a number that has too many digits to be written. -/
def Lost (s : Scheduler) : Prop := s.cpu.inProgram s.pc = false ∧ Literal.isWritable s.pc = false

variable {s} in
theorem not_lost_of_inProgram (h : s.cpu.inProgram s.pc = true) : ¬ s.Lost := by
  rintro ⟨hout, -⟩
  simp [h] at hout

variable {s} in
theorem halt_of_writable (h : Literal.isWritable s.pc = true) :
    s.halt = ⟨{ s with runState := .halted }, [haltedAt s.pc], .ok ()⟩ := if_pos h

variable {s} in
theorem halt_of_unwritable (h : Literal.isWritable s.pc = false) :
    s.halt = ⟨s, [], .error (.trap .unwritable)⟩ := if_neg (by simp [h])

/-- Only the slot that moves on can have changed the machine. -/
theorem executeNext_cases :
    (s.cpu.inProgram s.pc = false ∧ Literal.isWritable s.pc = true ∧ s.executeNext =
      ⟨{ s with runState := .halted }, [.event "Program finished.", haltedAt s.pc], .ok ()⟩) ∨
    (s.Lost ∧ s.executeNext =
      ⟨s, [.event "Program finished."], .error (.trap .unwritable)⟩) ∨
    (s.cpu.inProgram s.pc = true ∧ ∃ signals,
      (∃ e, s.cpu.step s.pc = ⟨s.cpu.moveTo s.pc, signals, .error e⟩ ∧
        s.executeNext = ⟨{ s with cpu := s.cpu.moveTo s.pc }, signals, .error e⟩) ∨
      (s.cpu.step s.pc = ⟨s.cpu.moveTo s.pc, signals, .ok none⟩ ∧
        s.executeNext = ⟨{ s with cpu := s.cpu.moveTo s.pc, runState := .halted },
          signals ++ haltedAt s.pc :: snapshot s.machine, .ok ()⟩) ∨
      ∃ cpu next, s.cpu.step s.pc = ⟨cpu, signals, .ok (some next)⟩ ∧
        s.executeNext =
          ⟨{ s with cpu, pc := next }, signals ++ snapshot cpu.machine, .ok ()⟩) := by
  unfold executeNext Lost
  cases hin : s.cpu.inProgram s.pc with
  | false =>
    rw [if_neg Bool.false_ne_true]
    cases hw : Literal.isWritable s.pc with
    | true => exact .inl ⟨rfl, rfl, by rw [halt_of_writable hw]; rfl⟩
    | false => exact .inr (.inl ⟨⟨rfl, rfl⟩, by rw [halt_of_unwritable hw]; rfl⟩)
  | true =>
    have hkept := Cpu.step_state_of_no_next s.cpu s.pc
    obtain ⟨cpu, signals, result, hr⟩ : ∃ cpu signals result,
        s.cpu.step s.pc = ⟨cpu, signals, result⟩ := ⟨_, _, _, rfl⟩
    rw [hr] at hkept ⊢
    refine .inr (.inr ⟨rfl, signals, ?_⟩)
    match result with
    | .error e =>
      obtain rfl : cpu = s.cpu.moveTo s.pc := hkept nofun
      exact .inl ⟨e, rfl, rfl⟩
    | .ok none =>
      obtain rfl : cpu = s.cpu.moveTo s.pc := hkept nofun
      -- The line was fetched, so its index is small enough to be written out.
      obtain ⟨hlow, hhigh⟩ := Cpu.fits_of_step (congrArg Reply.result hr)
      have hw : Literal.isWritable s.pc = true :=
        Literal.isWritable_of_fits hlow (Int.le_of_lt hhigh)
      refine .inr (.inl ⟨rfl, ?_⟩)
      have hhalt := halt_of_writable (s := { s with cpu := s.cpu.moveTo s.pc }) hw
      rw [if_pos rfl, follow, hhalt]
      rfl
    | .ok (some next) => exact .inr (.inr ⟨cpu, next, rfl, rfl⟩)

theorem tick_cases (elapsed : Number) :
    (s.isRunning = false ∧ s.tick elapsed = ⟨s, [], .ok false⟩) ∨
    (s.isRunning = true ∧ elapsed.toFloat? = none ∧
      s.tick elapsed = ⟨s, [], .error .tooLarge⟩) ∨
    (s.isRunning = true ∧ ∃ seconds, elapsed.toFloat? = some seconds ∧
      ((s.addTime seconds).timer < s.interval ∧
          s.tick elapsed = ⟨s.addTime seconds, [], .ok false⟩ ∨
        ¬ (s.addTime seconds).timer < s.interval ∧
          s.tick elapsed = restartTimer (s.addTime seconds).executeNext)) := by
  unfold tick
  cases hrun : s.isRunning with
  | false => exact .inl ⟨rfl, rfl⟩
  | true =>
    cases ht : elapsed.toFloat? with
    | none => exact .inr (.inl ⟨rfl, rfl, rfl⟩)
    | some seconds =>
      refine .inr (.inr ⟨rfl, seconds, rfl, ?_⟩)
      by_cases hearly : (s.addTime seconds).timer < s.interval
      · exact .inl ⟨hearly, if_pos hearly⟩
      · exact .inr ⟨hearly, if_neg hearly⟩

variable {s} {e : Failure}

/-- The slot that a tick after so many seconds would use: the run goes on, its time has come and the
pc is inside the program. -/
def Due (s : Scheduler) (seconds : Float) : Prop :=
  s.isRunning = true ∧ ¬ (s.addTime seconds).timer < s.interval ∧ s.cpu.inProgram s.pc = true

/-- A slot of a run that is not lost fails as its step does. -/
theorem executeNext_eq_error_iff (hlost : ¬ s.Lost) :
    s.executeNext.result = .error e ↔
      s.cpu.inProgram s.pc = true ∧ (s.cpu.step s.pc).result = .error e := by
  obtain ⟨hin, _, hr⟩ | ⟨h, _⟩ |
      ⟨hin, signals, ⟨e', hstep, hr⟩ | ⟨hstep, hr⟩ | ⟨cpu, next, hstep, hr⟩⟩ :=
    s.executeNext_cases
  · simp [hin, hr]
  · exact absurd h hlost
  · simp [hin, hstep, hr]
  · simp [hin, hstep, hr]
  · simp [hin, hstep, hr]

theorem restartTimer_eq_error_iff {r : Reply Scheduler Failure Unit} :
    (restartTimer r).result = .error e ↔ r.result = .error e := by
  match r with
  | ⟨_, _, .error e'⟩ => simp [restartTimer]
  | ⟨_, _, .ok _⟩ => simp [restartTimer]

theorem restartTimer_of_error {r : Reply Scheduler Failure Unit} (h : r.result = .error e) :
    (restartTimer r).state = r.state ∧ (restartTimer r).signals = r.signals := by
  match r, h with
  | ⟨_, _, .error _⟩, _ => exact ⟨rfl, rfl⟩

theorem restartTimer_keeps (r : Reply Scheduler Failure Unit) :
    (restartTimer r).result = r.result.map (fun _ => true) ∧
      (restartTimer r).state.cpu = r.state.cpu ∧
      (restartTimer r).state.pc = r.state.pc ∧
      (restartTimer r).state.runState = r.state.runState := by
  match r with
  | ⟨_, _, .error _⟩ => exact ⟨rfl, rfl, rfl, rfl⟩
  | ⟨_, _, .ok _⟩ => exact ⟨rfl, rfl, rfl, rfl⟩

theorem signals_restartTimer (r : Reply Scheduler Failure Unit) :
    (restartTimer r).signals = r.signals := by
  match r with
  | ⟨_, _, .error _⟩ => rfl
  | ⟨_, _, .ok _⟩ => rfl

theorem tick_eq_error_iff (hlost : ¬ s.Lost) {x : Float} :
    (s.tick (.real x)).result = .error e ↔
      s.Due x ∧ (s.cpu.step s.pc).result = .error e := by
  unfold Due
  obtain ⟨hrun, ht⟩ | ⟨_, hnone, _⟩ | ⟨hrun, seconds, hsome, hcases⟩ := s.tick_cases (.real x)
  · simp [hrun, ht]
  · cases hnone
  obtain rfl : x = seconds := Option.some.inj hsome
  obtain ⟨hearly, ht⟩ | ⟨hdue, ht⟩ := hcases
  · simp [ht, hearly]
  · have hkept : ¬ (s.addTime x).Lost := hlost
    rw [ht, restartTimer_eq_error_iff, executeNext_eq_error_iff hkept]
    simp only [hrun, hdue, true_and, not_false_eq_true]
    rfl

theorem cpu_executeNext (s : Scheduler) : s.executeNext.state.cpu =
    if s.cpu.inProgram s.pc then (s.cpu.step s.pc).state else s.cpu := by
  obtain ⟨hin, _, hr⟩ | ⟨⟨hin, _⟩, hr⟩ |
      ⟨hin, signals, ⟨e', hstep, hr⟩ | ⟨hstep, hr⟩ | ⟨cpu, next, hstep, hr⟩⟩ :=
    s.executeNext_cases
  · simp [hin, hr]
  · simp [hin, hr]
  · simp [hin, hstep, hr]
  · simp [hin, hstep, hr]
  · simp [hin, hstep, hr]

theorem executeNext_addTime (s : Scheduler) (seconds : Float) :
    (s.addTime seconds).executeNext =
      ⟨s.executeNext.state.addTime seconds, s.executeNext.signals, s.executeNext.result⟩ := by
  unfold executeNext
  change (if s.cpu.inProgram s.pc then (s.addTime seconds).follow (s.cpu.step s.pc) else _) = _
  have hpc : (s.addTime seconds).pc = s.pc := rfl
  cases hw : Literal.isWritable s.pc with
  | true =>
    split
    · obtain ⟨cpu, signals, e | (_ | next)⟩ := s.cpu.step s.pc
      · rfl
      · simp only [follow, halt, hpc, hw]
        rfl
      · rfl
    · simp only [halt, hpc, hw]
      rfl
  | false =>
    split
    · obtain ⟨cpu, signals, e | (_ | next)⟩ := s.cpu.step s.pc
      · rfl
      · simp only [follow, halt, hpc, hw]
        rfl
      · rfl
    · simp only [halt, hpc, hw]
      rfl

theorem slot_of_used {elapsed : Number} (h : (s.tick elapsed).result = .ok true) :
    (s.tick elapsed).state.cpu = s.executeNext.state.cpu ∧
      (s.tick elapsed).state.pc = s.executeNext.state.pc ∧
      (s.tick elapsed).state.runState = s.executeNext.state.runState := by
  obtain ⟨_, ht⟩ | ⟨_, _, ht⟩ | ⟨_, seconds, _, ⟨_, ht⟩ | ⟨_, ht⟩⟩ := s.tick_cases elapsed
  · simp [ht] at h
  · simp [ht] at h
  · simp [ht] at h
  · rw [ht, executeNext_addTime]
    exact (restartTimer_keeps _).2

theorem cpu_of_tick (s : Scheduler) (elapsed : Number) :
    (s.tick elapsed).state.cpu = s.cpu ∨
      (s.tick elapsed).state.cpu = s.executeNext.state.cpu := by
  obtain ⟨_, ht⟩ | ⟨_, _, ht⟩ | ⟨_, seconds, _, ⟨_, ht⟩ | ⟨_, ht⟩⟩ := s.tick_cases elapsed
  · exact .inl (by rw [ht])
  · exact .inl (by rw [ht])
  · exact .inl (by rw [ht]; rfl)
  · rw [ht, executeNext_addTime]
    exact .inr (restartTimer_keeps _).2.1

theorem program_of_executeNext (s : Scheduler) : s.executeNext.state.program = s.program := by
  rw [program, cpu_executeNext]
  split
  · exact s.cpu.step_program s.pc
  · rfl

theorem program_of_tick (s : Scheduler) (elapsed : Number) :
    (s.tick elapsed).state.program = s.program := by
  obtain hcpu | hcpu := s.cpu_of_tick elapsed
  · exact congrArg Cpu.program hcpu
  · exact (congrArg Cpu.program hcpu).trans s.program_of_executeNext

end Scheduler

theorem Scheduler.start_eq_ok {s : Scheduler} {source : Source} {rate : RateControl}
    (h : (s.start source rate).result = .ok ()) :
    ∃ text seconds, source.read = .ok text ∧ rate.interval = .ok seconds ∧
      (s.start source rate).state = (s.load text).begin seconds := by
  unfold start at *
  cases htext : source.read with
  | error e => simp [htext] at h
  | ok text =>
    cases hinterval : rate.interval with
    | error e => simp [htext, hinterval, startOn] at h
    | ok seconds => exact ⟨text, seconds, rfl, rfl, rfl⟩

theorem Session.start_of_interval {s : Session} {text : String} {seconds : Float}
    (hsource : s.source.read = .ok text) (hrate : s.rate.interval = .ok seconds) :
    s.start.result = .ok () ∧
      s.start.session.scheduler = (s.scheduler.load text).begin seconds := by
  rw [start, Scheduler.start, hsource, hrate]
  exact ⟨rfl, rfl⟩

end TickMachine
