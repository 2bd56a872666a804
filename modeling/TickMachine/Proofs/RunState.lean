import Mathlib.Data.List.Induction
import TickMachine.Proofs.Operands
import TickMachine.Proofs.Shape

namespace TickMachine

namespace Cpu

variable {c : Cpu} {index : Int}

/-- The line at an index ends the run: it halts, or it returns and there is no call to return
from. -/
def EndsAt (c : Cpu) (index : Int) : Prop :=
  ∃ i, c.program.instructionAt? index = some i ∧
    (i.op = .noop ∨ i.op = .ret ∧ c.machine.stack.frames = [])

theorem next_eq_none_iff {r : Except Trap (Option Int)} :
    next index r = .ok none ↔ ∃ t, r = .error t ∧ t.endsRun = true := by
  match r with
  | .ok target => simp [next]
  | .error (.fault f) => simp [next, Trap.endsRun]
  | .error .emptyCallStack => simp [next, Trap.endsRun]
  | .error .halt => simp [next, Trap.endsRun]
  | .error (.oversizedLiteral digits) => simp [next, Trap.endsRun]
  | .error .unwritable => simp [next, Trap.endsRun]

theorem step_eq_none_iff : (c.step index).result = .ok none ↔ c.EndsAt index := by
  unfold EndsAt
  cases hi : c.program.instructionAt? index with
  | some i =>
    have hresult : (c.step index).result = next index (c.worked index i).1 := by
      rw [step_of_instruction hi]
      rfl
    simp only [hresult, next_eq_none_iff, worked_eq_error_iff, Instruction.effect_ends_iff,
      Option.some.injEq, exists_eq_left']
  | none =>
    -- There is no line, or one that is passed over: neither halts.
    cases hl : c.program.lineAt index with
    | error e => simp [step_of_fetch_error hl]
    | ok line => simp [(step_of_no_instruction hl hi).2]

end Cpu

namespace Scheduler

variable {s : Scheduler}

/-- The run has come to its end: there is no next line, or the next line ends it. -/
def AtEnd (s : Scheduler) : Prop := s.cpu.inProgram s.pc = false ∨ s.cpu.EndsAt s.pc

/-- The run halts where it is, with the machine as it is. -/
structure HaltsAs (s t : Scheduler) : Prop where
  runState : t.runState = .halted
  pc : t.pc = s.pc
  machine : t.machine = s.machine

theorem executeNext_of_atEnd (hlost : ¬ s.Lost) (h : s.AtEnd) :
    s.executeNext.result = .ok () ∧ s.HaltsAs s.executeNext.state := by
  unfold AtEnd at h
  rw [← Cpu.step_eq_none_iff] at h
  -- A slot outside the program and a step that halts; a failing step and one that goes on are not
  -- at the end.
  obtain ⟨_, _, hr⟩ | ⟨h', _⟩ |
      ⟨hin, signals, ⟨e, hstep, _⟩ | ⟨_, hr⟩ | ⟨cpu, next, hstep, _⟩⟩ :=
    s.executeNext_cases
  · rw [hr]
    exact ⟨rfl, rfl, rfl, rfl⟩
  · exact absurd h' hlost
  · simp [hin, hstep] at h
  · rw [hr]
    exact ⟨rfl, rfl, rfl, rfl⟩
  · simp [hin, hstep] at h

/-- A run that is lost does not halt; the slot fails. -/
theorem executeNext_of_lost (h : s.Lost) :
    s.executeNext.result = .error (.trap .unwritable) ∧
      s.executeNext.state.runState = s.runState := by
  unfold executeNext
  rw [if_neg (by simp [h.1]), halt_of_unwritable h.2]
  exact ⟨rfl, rfl⟩

theorem executeNext_of_not_atEnd (h : ¬ s.AtEnd) : s.executeNext.state.runState = s.runState := by
  unfold AtEnd at h
  rw [← Cpu.step_eq_none_iff] at h
  obtain ⟨hout, _⟩ | ⟨hlost, _⟩ |
      ⟨_, signals, ⟨e, _, hr⟩ | ⟨hstep, _⟩ | ⟨cpu, next, _, hr⟩⟩ :=
    s.executeNext_cases
  · exact absurd (.inl hout) h
  · exact absurd (.inl hlost.1) h
  · rw [hr]
  · exact absurd (.inr (by rw [hstep])) h
  · rw [hr]

theorem not_lost_of_used {elapsed : Number} (h : (s.tick elapsed).result = .ok true) :
    ¬ s.Lost := by
  intro hlost
  obtain ⟨_, ht⟩ | ⟨_, _, ht⟩ | ⟨_, seconds, _, ⟨_, ht⟩ | ⟨_, ht⟩⟩ := s.tick_cases elapsed
  · simp [ht] at h
  · simp [ht] at h
  · simp [ht] at h
  · rw [ht, (restartTimer_keeps _).1,
      (executeNext_of_lost (s := s.addTime seconds) hlost).1] at h
    cases h

theorem tick_of_used_atEnd {elapsed : Number} (h : (s.tick elapsed).result = .ok true)
    (hend : s.AtEnd) : s.HaltsAs (s.tick elapsed).state := by
  obtain ⟨hcpu, hpc, hrun⟩ := slot_of_used h
  obtain ⟨_, hslot⟩ := executeNext_of_atEnd (not_lost_of_used h) hend
  exact ⟨hrun.trans hslot.runState, hpc.trans hslot.pc,
    (congrArg Cpu.machine hcpu).trans hslot.machine⟩

theorem tick_runState_of_not_end {elapsed : Number}
    (h : ¬ ((s.tick elapsed).result = .ok true ∧ s.AtEnd)) :
    (s.tick elapsed).state.runState = s.runState := by
  obtain ⟨_, ht⟩ | ⟨_, _, ht⟩ | ⟨_, seconds, _, ⟨_, ht⟩ | ⟨_, ht⟩⟩ := s.tick_cases elapsed
  · rw [ht]
  · rw [ht]
  · rw [ht]
    rfl
  · obtain ⟨hresult, _, _, hrun⟩ := restartTimer_keeps (s.addTime seconds).executeNext
    rw [ht] at h ⊢
    rw [hrun]
    by_cases hlost : (s.addTime seconds).Lost
    · exact (executeNext_of_lost hlost).2
    by_cases hend : s.AtEnd
    · have hused := (executeNext_of_atEnd (s := s.addTime seconds) hlost hend).1
      rw [hused] at hresult
      exact absurd ⟨hresult, hend⟩ h
    · exact executeNext_of_not_atEnd (s := s.addTime seconds) hend

theorem running_of_used {elapsed : Number} (h : (s.tick elapsed).result = .ok true) :
    s.runState = .running := by
  by_contra hrun
  rw [tick_of_not_running (decide_eq_false hrun)] at h
  cases h

end Scheduler

namespace Session

variable {s : Session} {op : Operation}

def runState (s : Session) : RunState := s.scheduler.runState

/-- The ways in which an operation can end up in a run state. -/
inductive Moves (s : Session) : Operation → RunState → Prop where
  | stay (op : Operation) : Moves s op s.runState
  | start (h : s.start.result = .ok ()) : Moves s .start .running
  | stop (h : s.runState = .running) : Moves s .stop .idle
  | reset : Moves s .reset .idle
  | halt : Moves s .halt .halted
  | slot (h : s.scheduler.AtEnd) : Moves s .executeNext .halted
  | tick (elapsed : Number) (hused : (s.tick elapsed).result = .ok true)
      (h : s.scheduler.AtEnd) : Moves s (.tick elapsed) .halted

theorem runState_of_failed_start (h : s.start.result ≠ .ok ()) :
    s.start.session.runState = s.runState := by
  unfold start absorb Scheduler.start at *
  cases htext : s.source.read with
  | error e => rfl
  | ok text =>
    cases hinterval : s.rate.interval with
    | error e => rfl
    | ok seconds =>
      rw [htext, hinterval] at h
      exact absurd rfl h

theorem runState_of_start (h : s.start.result = .ok ()) :
    s.start.session.runState = .running := by
  obtain ⟨text, seconds, _, _, hstate⟩ := Scheduler.start_eq_ok h
  unfold runState start absorb
  rw [hstate]
  rfl

theorem moves_perform (s : Session) (op : Operation) :
    s.Moves op (s.perform op).session.runState := by
  cases hop : op.ofScheduler with
  | false =>
    obtain ⟨m, _, hscheduler⟩ := s.scheduler_of_surroundings hop
    rw [runState, hscheduler]
    exact .stay op
  | true =>
    match op, hop with
    | .start, _ =>
      change s.Moves .start s.start.session.runState
      by_cases h : s.start.result = .ok ()
      · rw [runState_of_start h]
        exact .start h
      · rw [runState_of_failed_start h]
        exact .stay _
    | .stop, _ =>
      change s.Moves .stop s.scheduler.stop.state.runState
      unfold Scheduler.stop
      split
      · rename_i hrun
        exact .stop (of_decide_eq_true hrun)
      · exact .stay _
    | .reset, _ => exact .reset
    | .halt, _ =>
      change s.Moves .halt s.scheduler.halt.state.runState
      unfold Scheduler.halt
      split
      · exact .halt
      · exact .stay _
    | .refresh, _ => exact .stay _
    | .executeNext, _ =>
      change s.Moves .executeNext s.scheduler.executeNext.state.runState
      -- A pc that cannot be written out is past the end too, but then the halt does not take place.
      by_cases hlost : s.scheduler.Lost
      · rw [(Scheduler.executeNext_of_lost hlost).2]
        exact .stay _
      by_cases hend : s.scheduler.AtEnd
      · rw [(Scheduler.executeNext_of_atEnd hlost hend).2.runState]
        exact .slot hend
      · rw [Scheduler.executeNext_of_not_atEnd hend]
        exact .stay _
    | .tick elapsed, _ =>
      change s.Moves (.tick elapsed) (s.scheduler.tick elapsed).state.runState
      by_cases h : (s.tick elapsed).result = .ok true ∧ s.scheduler.AtEnd
      · rw [(Scheduler.tick_of_used_atEnd h.1 h.2).runState]
        exact .tick elapsed h.1 h.2
      · rw [Scheduler.tick_runState_of_not_end h]
        exact .stay _

theorem start_of_becomes_running (hbefore : s.runState ≠ .running)
    (hafter : (s.perform op).session.runState = .running) :
    op = .start ∧ (s.perform op).result = .ok .done := by
  have hmoves := moves_perform s op
  rw [hafter] at hmoves
  generalize hstate : RunState.running = state at hmoves
  cases hmoves with
  | stay => exact absurd hstate.symm hbefore
  | start h => exact ⟨rfl, by rw [perform, answered, h]; rfl⟩
  | stop | reset | halt | slot | tick => cases hstate

theorem stop_or_reset_of_becomes_idle (hbefore : s.runState ≠ .idle)
    (hafter : (s.perform op).session.runState = .idle) : op = .stop ∨ op = .reset := by
  have hmoves := moves_perform s op
  rw [hafter] at hmoves
  generalize hstate : RunState.idle = state at hmoves
  cases hmoves with
  | stay => exact absurd hstate.symm hbefore
  | stop => exact .inl rfl
  | reset => exact .inr rfl
  | start | halt | slot | tick => cases hstate

theorem performAll_append (s : Session) (ops rest : List Operation) :
    s.performAll (ops ++ rest) = (s.performAll ops).performAll rest := List.foldl_append

/-- A run in progress goes back to a start that succeeded, and has been in progress since. -/
theorem running_since_start {ops : List Operation} (hbefore : s.runState ≠ .running)
    (hafter : (s.performAll ops).runState = .running) :
    ∃ earlier later, ops = earlier ++ .start :: later ∧
      ((s.performAll earlier).perform .start).result = .ok .done ∧
      ∀ part, part <+: later →
        (s.performAll (earlier ++ .start :: part)).runState = .running := by
  -- From the end of the row, so that it is the last start that counts.
  induction ops using List.reverseRecOn with
  | nil => exact absurd hafter hbefore
  | append_singleton ops op ih =>
    by_cases hmid : (s.performAll ops).runState = .running
    · obtain ⟨earlier, later, rfl, hstart, hsince⟩ := ih hmid
      refine ⟨earlier, later ++ [op], by simp, hstart, ?_⟩
      intro part hpart
      obtain rfl | hshorter := List.prefix_concat_iff.mp hpart
      · simpa using hafter
      · exact hsince part hshorter
    · have hlast : ((s.performAll ops).perform op).session.runState = .running := by
        rw [performAll_append] at hafter
        exact hafter
      obtain ⟨rfl, hstart⟩ := start_of_becomes_running hmid hlast
      refine ⟨ops, [], rfl, hstart, ?_⟩
      intro part hpart
      rw [List.prefix_nil.mp hpart]
      exact hafter

end Session

/-- Ticks and stops: what a host does while it waits. -/
def Operation.isWaiting : Operation → Bool
  | .tick _ | .stop => true
  | _ => false

/-- What a tick or a stop answers when there is no run to be paced. -/
def Operation.answerAtRest : Operation → Answer
  | .tick _ => .ticked false
  | _ => .done

theorem Session.perform_at_rest {s : Session} {op : Operation} (hrest : s.runState ≠ .running)
    (hop : op.isWaiting = true) : s.perform op = ⟨s, [], .ok op.answerAtRest⟩ := by
  have hidle : s.scheduler.isRunning = false := decide_eq_false hrest
  match op, hop with
  | .tick elapsed, _ =>
    rw [perform, tick, Scheduler.tick_of_not_running hidle]
    rfl
  | .stop, _ =>
    rw [perform, stop, Scheduler.stop_of_not_running hidle]
    rfl

theorem Session.turns_at_rest {s : Session} {ops : List Operation} (hrest : s.runState ≠ .running)
    (hops : ∀ op ∈ ops, op.isWaiting = true) :
    s.turns ops = ops.map fun op => ⟨s, [], .ok op.answerAtRest⟩ := by
  induction ops with
  | nil => rfl
  | cons op rest ih =>
    have hfirst := perform_at_rest hrest (hops op List.mem_cons_self)
    rw [turns, hfirst, List.map_cons, ih fun op' hop' => hops op' (List.mem_cons_of_mem op hop')]

/-- A run is in progress only since a start that succeeded. Only stop and reset make it idle. A tick
that uses its slot halts it exactly at the end of the program, and then the pc and the machine stay;
every other tick keeps the run state. While no run is in progress, ticks and stops use no slot and
leave the session as it is. -/
theorem run_state_machine (s : Session) :
    (∀ op, s.runState ≠ .running → (s.perform op).session.runState = .running →
      op = .start ∧ (s.perform op).result = .ok .done) ∧
    (∀ ops, s.runState ≠ .running → (s.performAll ops).runState = .running →
      ∃ earlier later, ops = earlier ++ .start :: later ∧
        ((s.performAll earlier).perform .start).result = .ok .done ∧
        ∀ part, part <+: later →
          (s.performAll (earlier ++ .start :: part)).runState = .running) ∧
    (∀ op, s.runState = .running → (s.perform op).session.runState = .idle →
      op = .stop ∨ op = .reset) ∧
    (∀ elapsed, (s.tick elapsed).result = .ok true →
      s.runState = .running ∧
      ((s.tick elapsed).session.runState = .halted ↔ s.scheduler.AtEnd) ∧
      (s.scheduler.AtEnd → s.scheduler.HaltsAs (s.tick elapsed).session.scheduler)) ∧
    (∀ elapsed, ¬ ((s.tick elapsed).result = .ok true ∧ s.scheduler.AtEnd) →
      (s.tick elapsed).session.runState = s.runState) ∧
    ∀ ops, s.runState ≠ .running → (∀ op ∈ ops, op.isWaiting = true) →
      s.turns ops = ops.map fun op => ⟨s, [], .ok op.answerAtRest⟩ := by
  refine ⟨?_, ?_, ?_, ?_, ?_, ?_⟩
  · intro op hbefore hafter
    exact Session.start_of_becomes_running hbefore hafter
  · intro ops hbefore hafter
    exact Session.running_since_start hbefore hafter
  · intro op hrun hafter
    exact Session.stop_or_reset_of_becomes_idle (by rw [hrun]; decide) hafter
  · intro elapsed hused
    have hrun : s.runState = .running := Scheduler.running_of_used hused
    refine ⟨hrun, ⟨?_, ?_⟩, Scheduler.tick_of_used_atEnd hused⟩
    · -- Elsewhere the tick would have kept the run in progress.
      intro hhalted
      by_contra hend
      have hkept : (s.tick elapsed).session.runState = s.runState :=
        Scheduler.tick_runState_of_not_end fun h => hend h.2
      rw [hkept, hrun] at hhalted
      cases hhalted
    · intro hend
      exact (Scheduler.tick_of_used_atEnd hused hend).runState
  · intro elapsed h
    exact Scheduler.tick_runState_of_not_end h
  · intro ops hrest hops
    exact Session.turns_at_rest hrest hops

def Session.returning : Session :=
  (onDisplay (.text "IMM 0 7\nJMP 01") (.fixed (.ofNumber (.int 2)))
    (.blank false (some Hardware.logCapacity))).session

/-- The first slot goes on, the second one halts, and then nothing moves any more. -/
theorem run_state_machine_returning :
    let first := Session.returning.performAll [.start, .tick (.int 1)]
    let last := Session.returning.performAll [.start, .tick (.int 1), .tick (.int 1)]
    (∃ earlier later, [.start, .tick (.int 1)] = earlier ++ Operation.start :: later ∧
      ((Session.returning.performAll earlier).perform .start).result = .ok .done) ∧
    (Session.returning.perform .start).result = .ok .done ∧
    first.scheduler.HaltsAs (first.tick (.int 1)).session.scheduler ∧
    (first.tick (.real 0.25)).session.runState = .running ∧
    last.turns [.tick (.real 3.0), .stop] =
      [⟨last, [], .ok (.ticked false)⟩, ⟨last, [], .ok .done⟩] := by
  intro first last
  obtain ⟨hstart, hsince, -⟩ := run_state_machine Session.returning
  obtain ⟨-, -, -, hused, hother, -⟩ := run_state_machine first
  obtain ⟨-, -, -, -, -, hrest⟩ := run_state_machine last
  have hfirst : first.runState = .running := by decide +kernel
  obtain ⟨earlier, later, hops, hresult, -⟩ := hsince [.start, .tick (.int 1)] (by decide) hfirst
  obtain ⟨-, hiff, hhalts⟩ := hused (.int 1) (by decide +kernel)
  have hend : first.scheduler.AtEnd := hiff.mp (by decide +kernel)
  have hearly : (first.tick (.real 0.25)).result ≠ .ok true := by decide +kernel
  refine ⟨⟨earlier, later, hops, hresult⟩, (hstart .start (by decide) (by decide +kernel)).2,
    hhalts hend, ?_, ?_⟩
  · rw [hother (.real 0.25) fun h => hearly h.1, hfirst]
  · exact hrest [.tick (.real 3.0), .stop] (by decide +kernel) (by decide)

end TickMachine
