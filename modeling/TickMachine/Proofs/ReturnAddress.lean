import TickMachine.Proofs.CallReturn
import TickMachine.Proofs.RunState

namespace TickMachine

/-- The index directly after a line that spells a call. -/
structure Program.AfterCall (p : Program) (index : Int) : Prop where
  pos : 1 ≤ index
  le_size : index ≤ p.size
  call : ∃ i, p.instructionAt? (index - 1) = some i ∧ i.op = .call

namespace Cpu

variable {c : Cpu} {index : Int}

/-- Every frame was left by a call of the program. -/
def CallsRecorded (c : Cpu) : Prop := ∀ frame ∈ c.frames, c.program.AfterCall frame

theorem callsRecorded_of_frames {c' : Cpu} (h : c.CallsRecorded)
    (hprogram : c'.program = c.program) (hframes : ∀ frame ∈ c'.frames, frame ∈ c.frames) :
    c'.CallsRecorded := by
  intro frame hframe
  rw [hprogram]
  exact h frame (hframes frame hframe)

theorem afterCall_of_call {i : Instruction} (hin : c.inProgram index = true)
    (hi : c.program.instructionAt? index = some i) (hop : i.op = .call) :
    c.program.AfterCall (index + 1) := by
  -- A line counts from the end if its index is negative; inside the program none is.
  obtain ⟨hlow, hhigh⟩ := of_decide_eq_true hin
  refine ⟨by omega, by omega, i, ?_, hop⟩
  rw [Int.add_sub_cancel, hi]

theorem callsRecorded_step (h : c.CallsRecorded) (hin : c.inProgram index = true) :
    (c.step index).state.CallsRecorded := by
  obtain hs | ⟨i, e, hi, he, hs, _⟩ := c.step_cases index
  · rw [hs]
    exact h
  rw [hs]
  have hcause := Instruction.causes_of_effect he
  cases e with
  | setRegister place value => exact h
  | setMemory place value => exact h
  | jump target => exact h
  | call target => exact List.forall_mem_cons.mpr ⟨afterCall_of_call hin hi hcause.1, h⟩
  | ret target => exact callsRecorded_of_frames h rfl fun _ => List.mem_of_mem_tail

theorem step_of_return (hreturn : c.ReturnsAt index) (hopen : c.frames ≠ []) :
    ∃ target, (c.step index).result = .ok (some target) ∧
      c.frames = target :: (c.step index).state.frames := by
  obtain ⟨i, hi, hop⟩ := hreturn
  obtain ⟨target, rest, hframes⟩ := List.exists_cons_of_ne_nil hopen
  have htop : c.machine.stack.top? = some target := congrArg List.head? hframes
  have he : i.effect c.program c.machine = .ok (.ret target) := by
    simp only [Instruction.effect, hop, htop]
  refine ⟨target, ?_, ?_⟩
  · rw [step_of_instruction hi, worked, he]
    rfl
  · rw [step_of_instruction hi, worked, he, hframes]
    exact congrArg (List.cons target) (congrArg List.tail hframes).symm

end Cpu

namespace Scheduler

variable {s : Scheduler}

theorem callsRecorded_executeNext (h : s.cpu.CallsRecorded) :
    s.executeNext.state.cpu.CallsRecorded := by
  rw [cpu_executeNext]
  split
  · rename_i hin
    exact Cpu.callsRecorded_step h hin
  · exact h

theorem callsRecorded_tick (h : s.cpu.CallsRecorded) (elapsed : Number) :
    (s.tick elapsed).state.cpu.CallsRecorded := by
  obtain hcpu | hcpu := s.cpu_of_tick elapsed
  · rw [hcpu]
    exact h
  · rw [hcpu]
    exact callsRecorded_executeNext h

/-- What a slot does on a return: without an open call the run halts, otherwise the innermost frame
becomes the pc. -/
def Returns (s t : Scheduler) : Prop :=
  s.cpu.frames = [] ∧ s.HaltsAs t ∨ s.cpu.frames = t.pc :: t.cpu.frames

theorem atEnd_of_return (hreturn : s.cpu.ReturnsAt s.pc) (hframes : s.cpu.frames = []) :
    s.AtEnd := by
  obtain ⟨i, hi, hop⟩ := hreturn
  exact .inr ⟨i, hi, .inr ⟨hop, hframes⟩⟩

theorem returns_executeNext (hin : s.cpu.inProgram s.pc = true) (hreturn : s.cpu.ReturnsAt s.pc) :
    s.Returns s.executeNext.state := by
  by_cases hframes : s.cpu.frames = []
  · have hend := atEnd_of_return hreturn hframes
    exact .inl ⟨hframes, (executeNext_of_atEnd (not_lost_of_inProgram hin) hend).2⟩
  · -- With a frame to take off, the step goes on, and that leaves one ending of the slot.
    obtain ⟨target, hresult, hback⟩ := Cpu.step_of_return hreturn hframes
    obtain ⟨hout, _⟩ | ⟨hlost, _⟩ |
        ⟨_, signals, ⟨e, hstep, _⟩ | ⟨hstep, _⟩ | ⟨cpu, next, hstep, hr⟩⟩ :=
      s.executeNext_cases
    · rw [hin] at hout
      cases hout
    · exact absurd hlost (not_lost_of_inProgram hin)
    · simp [hstep] at hresult
    · simp [hstep] at hresult
    · rw [hstep] at hresult hback
      obtain rfl : next = target := by simpa using hresult
      rw [hr]
      exact .inr hback

theorem returns_tick {elapsed : Number} (hused : (s.tick elapsed).result = .ok true)
    (hin : s.cpu.inProgram s.pc = true) (hreturn : s.cpu.ReturnsAt s.pc) :
    s.Returns (s.tick elapsed).state := by
  obtain ⟨hcpu, hpc, _⟩ := slot_of_used hused
  obtain ⟨hframes, _⟩ | hback := returns_executeNext hin hreturn
  · exact .inl ⟨hframes, tick_of_used_atEnd hused (atEnd_of_return hreturn hframes)⟩
  · rw [Returns, hcpu, hpc]
    exact .inr hback

/-- The operations that use an instruction slot. -/
inductive UsesSlot (s : Scheduler) : Operation → Prop where
  | executeNext : UsesSlot s .executeNext
  | tick (elapsed : Number) (h : (s.tick elapsed).result = .ok true) : UsesSlot s (.tick elapsed)

end Scheduler

/-- Whether an operation may load another program, or pushes a frame without a call. -/
def Operation.startsOrPushes : Operation → Bool
  | .start | .push _ => true
  | _ => false

namespace Session

variable {s : Session} {op : Operation}

theorem callsRecorded_start (h : s.scheduler.cpu.frames = []) :
    s.start.session.scheduler.cpu.CallsRecorded := by
  have hmachine : s.start.session.scheduler.machine = s.scheduler.machine :=
    s.scheduler.machine_start s.source s.rate
  have hframes : s.start.session.scheduler.cpu.frames = [] :=
    (congrArg (·.stack.frames) hmachine).trans h
  rw [Cpu.CallsRecorded, hframes]
  exact List.forall_mem_nil _

theorem callsRecorded_perform (h : s.scheduler.cpu.CallsRecorded)
    (hop : op.startsOrPushes = false) :
    (s.perform op).session.scheduler.cpu.CallsRecorded := by
  match op, hop with
  | .stop, _ =>
    change s.scheduler.stop.state.cpu.CallsRecorded
    unfold Scheduler.stop
    split
    · exact h
    · exact h
  -- A reset leaves no frames at all.
  | .reset, _ => exact Cpu.callsRecorded_of_frames h rfl nofun
  | .halt, _ =>
    change s.scheduler.halt.state.cpu.CallsRecorded
    unfold Scheduler.halt
    split
    · exact h
    · exact h
  | .refresh, _ => exact h
  | .executeNext, _ => exact Scheduler.callsRecorded_executeNext h
  | .tick elapsed, _ => exact Scheduler.callsRecorded_tick h elapsed
  | .setText text, _ =>
    change (s.setText text).scheduler.cpu.CallsRecorded
    -- The text is read at the next start; the program in the processor stays.
    unfold setText
    split
    · exact h
    · exact h
  | .setFile contents, _ =>
    change (s.setFile contents).scheduler.cpu.CallsRecorded
    unfold setFile
    split
    · exact h
    · exact h
  | .setRate value, _ =>
    change (s.setRate value).scheduler.cpu.CallsRecorded
    unfold setRate
    split
    · exact h
    · exact h
  | .setRegister index value, _ =>
    simp only [perform, answered]
    cases hset : s.scheduler.machine.setRegister index value with
    | error f => exact h
    | ok m =>
      obtain ⟨registers, _, rfl⟩ := Except.map_eq_ok hset
      exact h
  | .setMemory index value, _ =>
    simp only [perform, answered]
    cases hset : s.scheduler.machine.setMemory index value with
    | error f => exact h
    | ok m =>
      obtain ⟨memory, _, rfl⟩ := Except.map_eq_ok hset
      exact h

theorem callsRecorded_performAll {ops : List Operation} (h : s.scheduler.cpu.CallsRecorded)
    (hops : ∀ op ∈ ops, op.startsOrPushes = false) :
    (s.performAll ops).scheduler.cpu.CallsRecorded := by
  induction ops generalizing s with
  | nil => exact h
  | cons op rest ih =>
    apply ih (callsRecorded_perform h (hops op List.mem_cons_self))
    intro op' hop'
    exact hops op' (List.mem_cons_of_mem op hop')

theorem returns_perform (hslot : s.scheduler.UsesSlot op)
    (hin : s.scheduler.cpu.inProgram s.scheduler.pc = true)
    (hreturn : s.scheduler.cpu.ReturnsAt s.scheduler.pc) :
    s.scheduler.Returns (s.perform op).session.scheduler := by
  cases hslot with
  | executeNext => exact Scheduler.returns_executeNext hin hreturn
  | tick elapsed hused => exact Scheduler.returns_tick hused hin hreturn

end Session

/-- Let a session be started while no call is open. Until it is started again or a frame is pushed
from outside, every frame is the index after a call of the loaded program. So a slot on a return
halts the run, if there is no frame, and else it goes on at the innermost one, which lies between
the second line and the end of the program, directly behind a call. -/
theorem return_addresses_sound (s : Session) (ops : List Operation)
    (hempty : s.scheduler.cpu.frames = []) (hops : ∀ op ∈ ops, op.startsOrPushes = false) :
    let t := s.start.session.performAll ops
    (∀ frame ∈ t.scheduler.cpu.frames, t.scheduler.program.AfterCall frame) ∧
    ∀ op, t.scheduler.UsesSlot op → t.scheduler.cpu.inProgram t.scheduler.pc = true →
      t.scheduler.cpu.ReturnsAt t.scheduler.pc →
      let t' := (t.perform op).session
      t.scheduler.cpu.frames = [] ∧ t.scheduler.HaltsAs t'.scheduler ∨
      t.scheduler.cpu.frames = t'.scheduler.pc :: t'.scheduler.cpu.frames ∧
        t.scheduler.program.AfterCall t'.scheduler.pc := by
  intro t
  have hrecorded : t.scheduler.cpu.CallsRecorded :=
    Session.callsRecorded_performAll (Session.callsRecorded_start hempty) hops
  refine ⟨hrecorded, ?_⟩
  intro op hslot hin hreturn t'
  obtain hhalts | hback := Session.returns_perform hslot hin hreturn
  · exact .inl hhalts
  · refine .inr ⟨hback, hrecorded _ ?_⟩
    rw [hback]
    exact List.mem_cons_self

def Session.callingLast : Session :=
  (onDisplay (.text "JMP 00 2\nJMP 01\nJMP 10 1") (.fixed .default) (.blank false none)).session

/-- The call leaves the index after the last line, and the return goes there. -/
theorem return_addresses_sound_callingLast :
    let t := Session.callingLast.start.session.performAll [.tick (.int 1), .tick (.int 1), .halt]
    let t' := (t.perform .executeNext).session
    t.scheduler.cpu.frames = [3] ∧ t.scheduler.program.AfterCall 3 ∧
      t'.scheduler.pc = 3 ∧ t'.scheduler.cpu.frames = [] := by
  intro t t'
  obtain ⟨hframes, hreturn⟩ := return_addresses_sound Session.callingLast
    [.tick (.int 1), .tick (.int 1), .halt] rfl (by decide)
  have hopen : t.scheduler.cpu.frames = [3] := by decide +kernel
  have hin : t.scheduler.cpu.inProgram t.scheduler.pc = true := by decide +kernel
  have hat : t.scheduler.cpu.ReturnsAt t.scheduler.pc :=
    ⟨⟨.ret, [], "JMP 01"⟩, by decide +kernel, rfl⟩
  obtain ⟨hnone, _⟩ | ⟨hback, _⟩ := hreturn .executeNext .executeNext hin hat
  · exact absurd (hopen.symm.trans hnone) (by decide)
  · obtain ⟨hpc, hrest⟩ := List.cons.inj (hopen.symm.trans hback)
    refine ⟨hopen, ?_, hpc.symm, hrest.symm⟩
    apply hframes
    rw [hopen]
    exact List.mem_singleton_self 3

end TickMachine
