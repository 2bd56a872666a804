import TickMachine.Proofs.Labels
import TickMachine.Proofs.Slot

namespace TickMachine

namespace Program

def LabelsInside (p : Program) : Prop :=
  ∀ name index, p.labels.find? name = some index → index < p.size

theorem labelsInside_empty : empty.LabelsInside := by
  intro name index h
  cases h

theorem labelsInside_parse (source : String) : (parse source).LabelsInside := by
  intro name index h
  obtain ⟨line, hline, -⟩ := line_of_find? h
  exact (List.getElem?_eq_some_iff.mp hline).1

/-- A label leads into the program; any other target has been read, and what can be read can be
written. -/
theorem inside_or_writable_of_resolve {p : Program} {token : String} {target : Int}
    (hlabels : p.LabelsInside) (h : p.resolve token = .ok target) :
    (0 ≤ target ∧ target < p.size) ∨ Literal.isWritable target = true := by
  unfold resolve at h
  cases hfind : p.labels.find? token with
  | some index =>
    rw [hfind] at h
    obtain rfl := Except.ok.inj h
    have hlt := hlabels token index hfind
    exact .inl ⟨by omega, by omega⟩
  | none =>
    rw [hfind] at h
    cases hread : Literal.read token with
    | value n =>
      rw [hread] at h
      obtain rfl := Except.ok.inj h
      exact .inr (Literal.isWritable_of_read hread)
    | oversized digits => simp [hread] at h
    | notInteger => simp [hread] at h

end Program

namespace Cpu

variable {c c' : Cpu} {index next : Int}

/-- Wherever the run can go from here, it stays inside the program or gets to a number that can be
written. -/
structure Writable (c : Cpu) (index : Int) : Prop where
  labels : c.program.LabelsInside
  index : c.inProgram index = true ∨ Literal.isWritable index = true
  frames : ∀ frame ∈ c.machine.stack.frames, Literal.isWritable frame = true

theorem writable_of_empty (hlabels : c.program.LabelsInside)
    (hempty : c.machine.stack.frames = []) :
    c.Writable 0 := by
  refine ⟨hlabels, .inr (by decide), ?_⟩
  rw [hempty]
  exact List.forall_mem_nil _

theorem Writable.redirect {i : Instruction} {target : Int} (h : c.Writable index)
    (htarget : i.target c.program 0 = .ok target) :
    c.inProgram target = true ∨ Literal.isWritable target = true := by
  obtain ⟨token, -, hresolve⟩ := Except.bind_eq_ok htarget
  exact (Program.inside_or_writable_of_resolve h.labels hresolve).imp_left decide_eq_true

/-- A line that is fetched has few digits in its index, and so has the line behind it. -/
theorem writable_step (h : c.Writable index) (hnext : (c.step index).result = .ok (some next)) :
    (c.step index).state.Writable next := by
  obtain ⟨hlow, hhigh⟩ := fits_of_step hnext
  have hbehind : Literal.isWritable (index + 1) = true :=
    Literal.isWritable_of_fits (by omega) (by omega)
  obtain ⟨hs, hon⟩ | ⟨i, e, hi, he, hs, hr⟩ := c.step_inversion index
  · obtain rfl := hon next hnext
    rw [hs]
    exact ⟨h.labels, .inr hbehind, h.frames⟩
  rw [hr] at hnext
  obtain rfl : e.target?.getD (index + 1) = next := by simpa using hnext
  rw [hs]
  have hcause := Instruction.causes_of_effect he
  cases e with
  | setRegister place value => exact ⟨h.labels, .inr hbehind, h.frames⟩
  | setMemory place value => exact ⟨h.labels, .inr hbehind, h.frames⟩
  | jump target => exact ⟨h.labels, h.redirect hcause.2, h.frames⟩
  | call target =>
    exact ⟨h.labels, h.redirect hcause.2, List.forall_mem_cons.mpr ⟨hbehind, h.frames⟩⟩
  | ret target =>
    have htop : target ∈ c.machine.stack.frames := List.mem_of_head? hcause.2
    refine ⟨h.labels, .inr (h.frames target htop), ?_⟩
    intro frame hframe
    exact h.frames frame (List.mem_of_mem_tail hframe)

end Cpu

namespace Scheduler

variable {s : Scheduler}

def Writable (s : Scheduler) : Prop := s.cpu.Writable s.pc

theorem Writable.not_lost (h : s.Writable) : ¬ s.Lost := by
  rintro ⟨hout, hlong⟩
  obtain hin | hshort := h.index
  · simp [hin] at hout
  · simp [hshort] at hlong

theorem writable_begin (hlabels : s.program.LabelsInside)
    (hframes : ∀ frame ∈ s.machine.stack.frames, Literal.isWritable frame = true)
    (interval : Float) :
    (s.begin interval).Writable :=
  ⟨hlabels, .inr (show Literal.isWritable 0 = true by decide), hframes⟩

theorem writable_cleared (hlabels : s.program.LabelsInside) : s.cleared.Writable :=
  Cpu.writable_of_empty hlabels rfl

theorem writable_stop (h : s.Writable) : s.stop.state.Writable := by
  unfold stop
  split <;> exact h

theorem writable_executeNext (h : s.Writable) : s.executeNext.state.Writable := by
  obtain ⟨_, _, hr⟩ | ⟨_, hr⟩ |
      ⟨_, signals, ⟨e, _, hr⟩ | ⟨_, hr⟩ | ⟨cpu, next, hstep, hr⟩⟩ := s.executeNext_cases
  · rw [hr]
    exact h
  · rw [hr]
    exact h
  · rw [hr]
    exact ⟨h.labels, h.index, h.frames⟩
  · rw [hr]
    exact ⟨h.labels, h.index, h.frames⟩
  · have hkept := Cpu.writable_step h (congrArg Reply.result hstep)
    rw [hstep] at hkept
    rw [hr]
    exact hkept

theorem writable_tick (h : s.Writable) (elapsed : Number) : (s.tick elapsed).state.Writable := by
  obtain ⟨_, ht⟩ | ⟨_, _, ht⟩ | ⟨_, seconds, _, ⟨_, ht⟩ | ⟨_, ht⟩⟩ := s.tick_cases elapsed
  · rw [ht]
    exact h
  · rw [ht]
    exact h
  · rw [ht]
    exact h
  · obtain ⟨-, hcpu, hpc, -⟩ := restartTimer_keeps (s.addTime seconds).executeNext
    have hlater : (s.addTime seconds).Writable := h
    rw [ht, Writable, hcpu, hpc]
    exact writable_executeNext hlater

end Scheduler
end TickMachine
