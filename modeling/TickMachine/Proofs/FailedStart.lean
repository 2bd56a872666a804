import TickMachine.Proofs.Rate
import TickMachine.Proofs.Shown

namespace TickMachine

namespace RateControl

/-- The control clamps the numbers that it is given. -/
def IsFixed (c : RateControl) : Prop := ∃ value, c = .fixed (.ofNumber value)

theorem interval_eq_error_iff {c : RateControl} {e : Failure} :
    c.interval = .error e ↔
      c.rate = .error e ∨ ∃ value, c.rate = .ok value ∧ intervalOf value = .error e := by
  unfold interval
  cases c.rate <;> simp

theorem IsFixed.interval_ne_error {c : RateControl} (h : c.IsFixed) (e : Failure) :
    c.interval ≠ .error e := by
  obtain ⟨value, rfl⟩ := h
  obtain ⟨seconds, hseconds⟩ := exists_interval_of_fixed value
  simp [hseconds]

end RateControl

def Operation.newRate? : Operation → Option Number
  | .setRate value => some value
  | _ => none

def Operation.latestRate (first : Number) (ops : List Operation) : Number :=
  ops.foldl (fun value op => op.newRate?.getD value) first

namespace Session

variable {s : Session} {e : Failure}

theorem rate_perform {value : Number} (h : s.rate = .fixed (.ofNumber value)) (op : Operation) :
    (s.perform op).session.rate = .fixed (.ofNumber (op.newRate?.getD value)) := by
  cases op with
  | start | stop | reset | halt | refresh | executeNext | tick | push => exact h
  | setText text =>
    change (s.setText text).rate = _
    unfold setText
    split <;> exact h
  | setFile contents =>
    change (s.setFile contents).rate = _
    unfold setFile
    split <;> exact h
  | setRate value =>
    change (s.setRate value).rate = _
    unfold setRate
    rw [h]
    rfl
  | setRegister index value =>
    change (s.poke (s.scheduler.machine.setRegister index value)).session.rate = _
    cases s.scheduler.machine.setRegister index value <;> exact h
  | setMemory index value =>
    change (s.poke (s.scheduler.machine.setMemory index value)).session.rate = _
    cases s.scheduler.machine.setMemory index value <;> exact h

theorem rate_performAll {value : Number} (h : s.rate = .fixed (.ofNumber value))
    (ops : List Operation) :
    (s.performAll ops).rate = .fixed (.ofNumber (Operation.latestRate value ops)) := by
  induction ops generalizing s value with
  | nil => exact h
  | cons op rest ih => exact ih (rate_perform h op)

theorem isFixed_performAll (h : s.rate.IsFixed) (ops : List Operation) :
    (s.performAll ops).rate.IsFixed := by
  obtain ⟨value, hvalue⟩ := h
  exact ⟨_, rate_performAll hvalue ops⟩

/-- The two ways in which a start fails: the source cannot be read and nothing is loaded, or it is
read and loaded and there is no interval. -/
theorem start_eq_error (h : s.start.result = .error e) :
    (∃ reason, s.source.read = .error reason ∧ e = .source reason ∧
      s.start.session = { s with display := s.display.accept (.event "CPU Started.") }) ∨
    ∃ text, s.source.read = .ok text ∧ s.rate.interval = .error e ∧
      s.start.session = { s with
        scheduler := s.scheduler.load text
        display := s.display.acceptAll (Scheduler.started :: Scheduler.loading text) } := by
  unfold start absorb Scheduler.start at *
  cases hread : s.source.read with
  | error reason =>
    rw [hread] at h
    exact .inl ⟨reason, rfl, (Except.error.inj h).symm, rfl⟩
  | ok text =>
    rw [hread] at h
    cases hinterval : s.rate.interval with
    | error e' =>
      rw [hinterval] at h
      obtain rfl : e' = e := Except.error.inj h
      exact .inr ⟨text, rfl, rfl, rfl⟩
    | ok seconds =>
      rw [hinterval] at h
      cases h

/-- What a start that fails leaves alone in any case. -/
structure SameButProgram (s s' : Session) : Prop where
  scheduler : s'.scheduler =
    { s.scheduler with cpu := s.scheduler.cpu.load s'.scheduler.program }
  shownRegisters : s'.display.registers = s.display.registers
  shownMemory : s'.display.memory = s.display.memory

theorem sameButProgram_of_failed_start (h : s.start.result = .error e) :
    s.SameButProgram s.start.session := by
  obtain ⟨reason, -, -, hsession⟩ | ⟨text, -, -, hsession⟩ := start_eq_error h
  · rw [hsession]
    exact ⟨rfl, rfl, rfl⟩
  · have hquiet : ∀ t ∈ Scheduler.started :: Scheduler.loading text, t.isSnapshot = false :=
      List.forall_mem_cons.mpr ⟨rfl, Scheduler.loading_signals text⟩
    obtain ⟨hregisters, hmemory⟩ := s.display.acceptAll_shown hquiet
    rw [hsession]
    exact ⟨rfl, hregisters, hmemory⟩

end Session

/-- After any operations, a start that fails leaves the machine, the run and what is shown as they
were. If the source is what fails, nothing changes but for one event. Otherwise the text that was
read is loaded and the rate has no interval. With a fixed rate only the source can fail, so that the
program stays the one that was loaded before. -/
theorem failed_start_consistent (s : Session) (ops : List Operation) (e : Failure)
    (h : (s.performAll ops).start.result = .error e) :
    let before := s.performAll ops
    let after := before.start.session
    before.SameButProgram after ∧
    (∀ reason, before.source.read = .error reason →
      e = .source reason ∧
      after = { before with display := before.display.accept (.event "CPU Started.") }) ∧
    (∀ text, before.source.read = .ok text →
      after.scheduler.program = .parse text ∧
      (before.rate.rate = .error e ∨
        ∃ value, before.rate.rate = .ok value ∧ RateControl.intervalOf value = .error e)) ∧
    (s.rate.IsFixed →
      (∃ reason, before.source.read = .error reason) ∧ after.scheduler = before.scheduler) := by
  intro before after
  refine ⟨Session.sameButProgram_of_failed_start h, ?_, ?_, ?_⟩
  · intro reason hreason
    obtain ⟨reason', hreason', he, hafter⟩ | ⟨text, htext, -⟩ := Session.start_eq_error h
    · obtain rfl := Except.error.inj (hreason.symm.trans hreason')
      exact ⟨he, hafter⟩
    · cases hreason.symm.trans htext
  · intro text htext
    obtain ⟨reason, hreason, -⟩ | ⟨text', htext', hinterval, hafter⟩ := Session.start_eq_error h
    · cases hreason.symm.trans htext
    · obtain rfl := Except.ok.inj (htext.symm.trans htext')
      refine ⟨?_, RateControl.interval_eq_error_iff.mp hinterval⟩
      rw [show after = _ from hafter]
      rfl
  · intro hfixed
    obtain ⟨reason, hreason, -, hafter⟩ | ⟨text, -, hinterval, -⟩ := Session.start_eq_error h
    · refine ⟨⟨reason, hreason⟩, ?_⟩
      rw [show after = _ from hafter]
    · -- The control has stayed fixed, and then there is an interval.
      exact absurd hinterval ((Session.isFixed_performAll hfixed ops).interval_ne_error e)

def Session.fromFile : Session :=
  (onDisplay (.file (.ok [0x2E, 0x61])) (.fixed (.ofNumber (.int (1 <<< 1024))))
    (.blank false (some 2))).session

def Session.hasty : Session :=
  (onDisplay (.text "NOOP") (.free (.int (1 <<< 1024))) (.blank false none)).session

/-- The file is gone when it is read again, and the run goes on with what it has. Without a clamp
the new program is there although the run has not begun. -/
theorem failed_start_consistent_fromFile_hasty :
    let running := Session.fromFile.performAll
      [.setRate (.real (0.0 / 0.0)), .start, .executeNext, .setFile (.error (.notFound "a.tasm"))]
    (running.scheduler.runState = .running ∧ running.scheduler.program.lines = [".a"] ∧
      running.start.session.scheduler = running.scheduler ∧
      running.start.session =
        { running with display := running.display.accept (.event "CPU Started.") }) ∧
    Session.hasty.SameButProgram Session.hasty.start.session ∧
    Session.hasty.scheduler.program.size = 0 ∧
    Session.hasty.start.session.scheduler.program = .parse "NOOP" := by
  intro running
  obtain ⟨-, hsource, -, hfixed⟩ := failed_start_consistent Session.fromFile
    [.setRate (.real (0.0 / 0.0)), .start, .executeNext, .setFile (.error (.notFound "a.tasm"))]
    (.source (.unreadable (.notFound "a.tasm"))) (by decide +kernel)
  obtain ⟨hkept, -, htext, -⟩ := failed_start_consistent Session.hasty [] .tooLarge
    (by decide +kernel)
  exact ⟨⟨by decide +kernel, by decide +kernel, (hfixed ⟨_, rfl⟩).2, (hsource _ rfl).2⟩, hkept, rfl,
    (htext _ rfl).1⟩

end TickMachine
