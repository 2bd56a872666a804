import Mathlib.Order.Bounds.Basic
import Mathlib.Order.MinMax
import TickMachine.Proofs.Shape

namespace TickMachine

theorem Bank.dump_bytes (b : Bank) : ∀ v ∈ b.dump, 0 ≤ v ∧ v ≤ Hardware.byteMask := by
  intro v hv
  obtain ⟨cell, _, rfl⟩ := List.mem_map.mp hv
  have hlt := cell.toNat_lt
  unfold Hardware.byteMask
  omega

namespace Machine

/-- A machine whose parts are as they are meant to be. -/
structure Sound (m : Machine) : Prop where
  registers : m.registers.dump.length = Hardware.registerCount
  memory : m.memory.dump.length = Hardware.memorySize
  bytes : ∀ v ∈ m.registers.dump ++ m.memory.dump, 0 ≤ v ∧ v ≤ Hardware.byteMask
  depth : m.stack.frames.length ≤ m.stack.maxDepth

variable {m m' : Machine}

theorem sound_of_shaped (h : m.Shaped) (hdepth : m.stack.depth ≤ m.stack.maxDepth) : m.Sound where
  registers := (Bank.length_dump _).trans h.registerCount
  memory := (Bank.length_dump _).trans h.memorySize
  bytes := List.forall_mem_append.mpr ⟨m.registers.dump_bytes, m.memory.dump_bytes⟩
  depth := hdepth

/-- A stack that has never been deeper than it remembers will remember its next depth. -/
theorem Stride.maxDepth (h : m.Stride m') (hm : m.stack.depth ≤ m.stack.maxDepth) :
    m'.stack.maxDepth = max m.stack.maxDepth m'.stack.depth := by
  cases h with
  | stay => exact (Nat.max_eq_left hm).symm
  | reset => exact (Nat.max_eq_left (Nat.zero_le _)).symm
  | effect e index =>
    cases e with
    | setRegister place value => exact (Nat.max_eq_left hm).symm
    | setMemory place value => exact (Nat.max_eq_left hm).symm
    | jump target => exact (Nat.max_eq_left hm).symm
    | call target => rfl
    | ret target =>
      have hdrop : m.stack.drop.depth ≤ m.stack.depth := by
        simp [CallStack.drop, CallStack.depth]
      exact (Nat.max_eq_left (hdrop.trans hm)).symm

section Life

variable {σ α : Type} (machine : σ → Machine) (act : σ → α → σ)

/-- The depths of the stack along a row of actions, at the beginning and after each of them. -/
def depthsAlong (s : σ) : List α → List Nat
  | [] => [(machine s).stack.depth]
  | a :: rest => (machine s).stack.depth :: depthsAlong (act s a) rest

theorem first_mem_depthsAlong (s : σ) (acts : List α) :
    (machine s).stack.depth ∈ depthsAlong machine act s acts := by
  cases acts <;> exact List.mem_cons_self

theorem last_mem_depthsAlong (s : σ) (acts : List α) :
    (machine (acts.foldl act s)).stack.depth ∈ depthsAlong machine act s acts := by
  induction acts generalizing s with
  | nil => exact List.mem_cons_self
  | cons a rest ih => exact List.mem_cons_of_mem _ (ih (act s a))

variable {machine act}

theorem isGreatest_maxDepth (hact : ∀ s a, (machine s).Stride (machine (act s a))) {s : σ}
    (hs : (machine s).stack.depth ≤ (machine s).stack.maxDepth) (acts : List α) :
    IsGreatest {n | n = (machine s).stack.maxDepth ∨ n ∈ depthsAlong machine act s acts}
      (machine (acts.foldl act s)).stack.maxDepth := by
  -- What the stack remembers at the beginning counts as one more depth: the actions that it
  -- comes from are not in the row.
  induction acts generalizing s with
  | nil =>
    refine ⟨.inl rfl, ?_⟩
    rintro n (rfl | hn)
    · exact Nat.le_refl _
    · rwa [List.mem_singleton.mp hn]
  | cons a rest ih =>
    have hmax := (hact s a).maxDepth hs
    have hnext : (machine (act s a)).stack.depth ≤ (machine (act s a)).stack.maxDepth := by
      rw [hmax]
      exact Nat.le_max_right _ _
    obtain ⟨hmem, hbound⟩ := ih hnext
    have hfirst : (machine s).stack.maxDepth ≤
        (machine ((a :: rest).foldl act s)).stack.maxDepth := by
      refine Nat.le_trans ?_ (hbound (.inl rfl))
      rw [hmax]
      exact Nat.le_max_left _ _
    refine ⟨?_, ?_⟩
    · obtain hsame | hlater := hmem
      · -- Either the old maximum has lasted, or the depth after the first action has replaced it.
        rw [hmax] at hsame
        obtain hold | hnew := max_choice (machine s).stack.maxDepth (machine (act s a)).stack.depth
        · exact .inl (hsame.trans hold)
        · refine .inr (List.mem_cons_of_mem _ ?_)
          rw [List.foldl_cons, hsame, hnew]
          exact first_mem_depthsAlong machine act (act s a) rest
      · exact .inr (List.mem_cons_of_mem _ hlater)
    · rintro n (rfl | hn)
      · exact hfirst
      · obtain rfl | hn := List.mem_cons.mp hn
        · exact hs.trans hfirst
        · exact hbound (.inr hn)

theorem shaped_foldl (hact : ∀ s a, (machine s).Stride (machine (act s a))) {s : σ}
    (hs : (machine s).Shaped) (acts : List α) : (machine (acts.foldl act s)).Shaped := by
  induction acts generalizing s with
  | nil => exact hs
  | cons a rest ih => exact ih ((hact s a).becomes.shaped hs)

/-- A machine that begins as a new one is sound after any actions, and its stack remembers the
greatest of all its depths. -/
theorem sound_foldl (hact : ∀ s a, (machine s).Stride (machine (act s a))) {s : σ}
    (hs : machine s = .initial) (acts : List α) :
    (machine (acts.foldl act s)).Sound ∧
      IsGreatest {n | n ∈ depthsAlong machine act s acts}
        (machine (acts.foldl act s)).stack.maxDepth := by
  have hempty : (machine s).stack.depth = (machine s).stack.maxDepth := by
    rw [hs]
    rfl
  have hfirst := first_mem_depthsAlong machine act s acts
  obtain ⟨hmem, hbound⟩ := isGreatest_maxDepth hact (Nat.le_of_eq hempty) acts
  have hgreatest : IsGreatest {n | n ∈ depthsAlong machine act s acts}
      (machine (acts.foldl act s)).stack.maxDepth := by
    refine ⟨?_, fun n hn => hbound (.inr hn)⟩
    obtain hsame | hlater := hmem
    · rw [hsame, ← hempty]
      exact hfirst
    · exact hlater
  have hshaped : (machine s).Shaped := by
    rw [hs]
    exact shaped_initial
  have hdepth := hgreatest.2 (last_mem_depthsAlong machine act s acts)
  exact ⟨sound_of_shaped (shaped_foldl hact hshaped acts) hdepth, hgreatest⟩

end Life
end Machine

theorem Instruction.stride_handle (i : Instruction) (p : Program) (index : Int) (m : Machine) :
    m.Stride ((i.handle p index).on m).2 := by
  rw [on_handle]
  cases i.effect p m with
  | error t => exact .stay
  | ok e => exact .effect e index

namespace Work

variable (m : Machine)

theorem stride_setRegister (index value : Int) :
    m.Stride ((setRegister index value).on m).2 := by
  simp only [setRegister, on_bind, on_get, on_lift]
  cases h : m.setRegister index value with
  | error f => exact .stay
  | ok m' => exact Machine.stride_of_setRegister h

theorem stride_setMemory (index value : Int) : m.Stride ((setMemory index value).on m).2 := by
  simp only [setMemory, on_bind, on_get, on_lift]
  cases h : m.setMemory index value with
  | error f => exact .stay
  | ok m' => exact Machine.stride_of_setMemory h

theorem stride_pop : m.Stride (pop.on m).2 := by
  simp only [pop, CallStack.pop?, on_bind, on_get]
  cases m.stack.top? with
  | none => exact .stay
  | some frame => exact .effect (.ret frame) 0

end Work

/-- What can be done with a processor and with the machine that it owns. -/
inductive Cpu.Action where
  | step (index : Int)
  | execute (text : String)
  /-- The work of an instruction, which need not stand in any line. -/
  | handle (i : Instruction)
  | load (p : Program)
  | setRegister (index value : Int)
  | setMemory (index value : Int)
  | push (index : Int)
  | pop
  | reset

namespace Cpu

def after {α : Type} (c : Cpu) (w : Work α) : Cpu := { c with machine := (w.on c.machine).2 }

def act (c : Cpu) : Action → Cpu
  | .step index => (c.step index).state
  | .execute text => (c.execute text).state
  | .handle i => c.after (i.handle c.program c.index)
  | .load p => c.load p
  | .setRegister index value => c.after (Work.setRegister index value)
  | .setMemory index value => c.after (Work.setMemory index value)
  | .push index => c.after (Work.push index)
  | .pop => c.after Work.pop
  | .reset => { c with machine := c.machine.reset }

theorem stride_act (c : Cpu) (a : Action) : c.machine.Stride (c.act a).machine := by
  cases a with
  | step index => exact c.stride_step index
  | execute text =>
    change c.machine.Stride (c.execute text).state.machine
    unfold execute
    cases Instruction.decode text with
    | error f => exact .stay
    | ok i => exact i.stride_handle c.program c.index c.machine
  | handle i => exact i.stride_handle c.program c.index c.machine
  | load p => exact .stay
  | setRegister index value => exact Work.stride_setRegister c.machine index value
  | setMemory index value => exact Work.stride_setMemory c.machine index value
  | push index => exact c.machine.stride_push index
  | pop => exact Work.stride_pop c.machine
  | reset => exact .reset

end Cpu

/-- What can be done with a scheduler: its operations, and all that its processor is open to. -/
inductive Scheduler.Action where
  | cpu (a : Cpu.Action)
  | start (source : Source) (rate : RateControl)
  | stop
  | halt
  | reset
  | refresh
  | executeNext
  | tick (elapsed : Number)

namespace Scheduler

def act (s : Scheduler) : Action → Scheduler
  | .cpu a => { s with cpu := s.cpu.act a }
  | .start source rate => (s.start source rate).state
  | .stop => s.stop.state
  | .halt => s.halt.state
  | .reset => s.reset.state
  | .refresh => s.refresh.state
  | .executeNext => s.executeNext.state
  | .tick elapsed => (s.tick elapsed).state

theorem stride_act (s : Scheduler) (a : Action) : s.machine.Stride (s.act a).machine := by
  cases a with
  | cpu a => exact s.cpu.stride_act a
  | start source rate =>
    rw [act, machine_start]
    exact .stay
  | stop =>
    rw [act, machine_stop]
    exact .stay
  | halt =>
    rw [act, machine_halt]
    exact .stay
  | reset => exact .reset
  | refresh => exact .stay
  | executeNext => exact s.stride_executeNext
  | tick elapsed => exact s.stride_tick elapsed

end Scheduler

/-- Whatever has been done with a new processor or a new scheduler, the machine is sound, and the
greatest depth is the greatest of the depths that the stack has had since it was new. No moment is
left out, since one action changes the machine at most once. -/
theorem machine_sound_for_life :
    (∀ acts : List Cpu.Action, let c := acts.foldl Cpu.act .initial
      c.machine.Sound ∧
        IsGreatest {n | n ∈ Machine.depthsAlong Cpu.machine Cpu.act .initial acts}
          c.machine.stack.maxDepth) ∧
    (∀ acts : List Scheduler.Action, let s := acts.foldl Scheduler.act .initial
      s.machine.Sound ∧
        IsGreatest {n | n ∈ Machine.depthsAlong Scheduler.machine Scheduler.act .initial acts}
          s.machine.stack.maxDepth) ∧
    (∀ (c : Cpu) (a : Cpu.Action), c.machine.Stride (c.act a).machine) ∧
    ∀ (s : Scheduler) (a : Scheduler.Action), s.machine.Stride (s.act a).machine := by
  refine ⟨?_, ?_, Cpu.stride_act, Scheduler.stride_act⟩
  · intro acts
    exact Machine.sound_foldl Cpu.stride_act rfl acts
  · intro acts
    exact Machine.sound_foldl Scheduler.stride_act rfl acts

example : (([.push 4, .push 5, .reset, .push 6] : List Cpu.Action).foldl Cpu.act
    .initial).machine.stack = ⟨[6], 2⟩ := by decide

end TickMachine
