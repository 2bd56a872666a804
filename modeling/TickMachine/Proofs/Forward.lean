import Mathlib.Algebra.Order.Ring.Nat
import TickMachine.Proofs.ReturnAddress

namespace TickMachine

namespace Program

/-- Jumps and calls lead to later lines, if they lead anywhere. -/
def Forward (p : Program) : Prop :=
  ∀ index < p.size, ∀ i ∈ p.instructionAt? index, i.op = .jmp ∨ i.op = .call →
    ∀ target ∈ (i.target p 0).toOption, index < target

instance (p : Program) : Decidable p.Forward := by
  unfold Forward
  infer_instance

/-- What a line may cost: three times as much as the line after it, and one slot behind the last
line. -/
def cost (p : Program) (index : Int) : Nat := 3 ^ (p.size - index).toNat

variable {p : Program} {index next : Int}

theorem cost_pos (p : Program) (index : Int) : 0 < p.cost index := Nat.pow_pos (by decide)

theorem cost_succ (h : index < p.size) : p.cost index = 3 * p.cost (index + 1) := by
  have hexp : (p.size - index).toNat = (p.size - (index + 1)).toNat + 1 := by omega
  rw [cost, cost, hexp, Nat.pow_succ, Nat.mul_comm]

theorem cost_le (h : index ≤ next) : p.cost next ≤ p.cost index :=
  Nat.pow_le_pow_right (by decide) (by omega)

theorem cost_lt (hin : index < p.size) (h : index < next) : 3 * p.cost next ≤ p.cost index := by
  have hle : p.cost next ≤ p.cost (index + 1) := cost_le h
  rw [cost_succ hin]
  omega

theorem forward_target {i : Instruction} {target : Int} (h : p.Forward) (hlow : 0 ≤ index)
    (hhigh : index < p.size) (hi : p.instructionAt? index = some i)
    (hop : i.op = .jmp ∨ i.op = .call) (htarget : i.target p 0 = .ok target) : index < target := by
  obtain ⟨n, rfl⟩ := Int.eq_ofNat_of_zero_le hlow
  exact h n (by omega) i hi hop target (by rw [htarget]; rfl)

end Program

namespace Cpu

variable {c c' : Cpu} {index next : Int}

/-- What a run may still cost: it goes on here, and later behind every open call. -/
def budget (c : Cpu) (index : Int) : Nat :=
  c.program.cost index + (c.frames.map c.program.cost).sum

/-- The frames were left by calls, they rise from the outermost to the innermost, and none of them
lies ahead of the index. -/
structure Ascends (c : Cpu) (index : Int) : Prop where
  nonneg : 0 ≤ index
  recorded : c.CallsRecorded
  falling : ((index + 1) :: c.frames).Pairwise (· > ·)

theorem ascends_of_empty (hempty : c.frames = []) :
    c.Ascends 0 ∧ c.budget 0 = 3 ^ c.program.size := by
  constructor
  · refine ⟨Int.le_refl 0, ?_, ?_⟩
    · rw [CallsRecorded, hempty]
      exact List.forall_mem_nil _
    · rw [hempty]
      exact List.pairwise_singleton _ _
  · rw [budget, hempty, Program.cost, Int.sub_zero, Int.toNat_natCast]
    rfl

theorem ascends_of_advance (h : c.Ascends index) (hhigh : index < c.program.size)
    (hprogram : c'.program = c.program) (hframes : c'.frames = c.frames) (hlt : index < next) :
    c'.Ascends next ∧ c'.budget next < c.budget index := by
  obtain ⟨hlow, hrecorded, hrising⟩ := h
  obtain ⟨habove, hfalling⟩ := List.pairwise_cons.mp hrising
  constructor
  · refine ⟨by omega, callsRecorded_of_frames hrecorded hprogram ?_, ?_⟩
    · intro frame hframe
      rwa [hframes] at hframe
    · rw [hframes]
      refine List.pairwise_cons.mpr ⟨?_, hfalling⟩
      intro frame hframe
      have hle := habove frame hframe
      omega
  · have hcost : 3 * c.program.cost next ≤ c.program.cost index := Program.cost_lt hhigh hlt
    have hpos := c.program.cost_pos next
    rw [budget, budget, hprogram, hframes]
    omega

/-- A call shares the budget of its line between its target and the line behind it. -/
theorem ascends_of_call (h : c.Ascends index) (hhigh : index < c.program.size)
    (hrecorded : c'.CallsRecorded) (hprogram : c'.program = c.program)
    (hframes : c'.frames = (index + 1) :: c.frames) (hlt : index < next) :
    c'.Ascends next ∧ c'.budget next < c.budget index := by
  have hlow := h.nonneg
  constructor
  · refine ⟨by omega, hrecorded, ?_⟩
    rw [hframes]
    refine List.pairwise_cons.mpr ⟨?_, h.falling⟩
    intro frame hframe
    obtain rfl | hframe := List.mem_cons.mp hframe
    · omega
    · have hle := List.rel_of_pairwise_cons h.falling hframe
      omega
  · have htarget : 3 * c.program.cost next ≤ c.program.cost index := Program.cost_lt hhigh hlt
    have hbehind : c.program.cost index = 3 * c.program.cost (index + 1) := Program.cost_succ hhigh
    have hpos := c.program.cost_pos index
    rw [budget, budget, hprogram, hframes, List.map_cons, List.sum_cons]
    omega

/-- A return gives up what was left for the line that it leaves. -/
theorem ascends_of_return (h : c.Ascends index) (hrecorded : c'.CallsRecorded)
    (hprogram : c'.program = c.program) (hframes : c.frames = next :: c'.frames) :
    c'.Ascends next ∧ c'.budget next < c.budget index := by
  obtain ⟨_, hbefore, hrising⟩ := h
  rw [hframes] at hrising
  obtain ⟨_, hfalling⟩ := List.pairwise_cons.mp hrising
  constructor
  · have hfrom : c.program.AfterCall next := hbefore next (hframes ▸ List.mem_cons_self)
    refine ⟨by have hpos := hfrom.pos; omega, hrecorded, ?_⟩
    obtain ⟨habove, hrest⟩ := List.pairwise_cons.mp hfalling
    refine List.pairwise_cons.mpr ⟨?_, hrest⟩
    intro frame hframe
    have hlt := habove frame hframe
    omega
  · have hpos := c.program.cost_pos index
    rw [budget, budget, hprogram, hframes, List.map_cons, List.sum_cons]
    omega

/-- A step of a forward program that goes on keeps the frames in order and lowers the budget. -/
theorem ascends_step (hforward : c.program.Forward) (h : c.Ascends index)
    (hin : c.inProgram index = true) (hnext : (c.step index).result = .ok (some next)) :
    (c.step index).state.Ascends next ∧ (c.step index).state.budget next < c.budget index := by
  obtain ⟨hlow, hhigh⟩ : 0 ≤ index ∧ index < c.program.size := of_decide_eq_true hin
  have hrecorded := callsRecorded_step h.recorded hin
  obtain ⟨hs, hon⟩ | ⟨i, e, hi, he, hs, hr⟩ := c.step_inversion index
  · obtain rfl := hon next hnext
    rw [hs]
    exact ascends_of_advance h hhigh rfl rfl (Int.lt_succ index)
  rw [hr] at hnext
  obtain rfl : e.target?.getD (index + 1) = next := by simpa using hnext
  rw [hs] at hrecorded ⊢
  have hcause := Instruction.causes_of_effect he
  cases e with
  | setRegister place value => exact ascends_of_advance h hhigh rfl rfl (Int.lt_succ index)
  | setMemory place value => exact ascends_of_advance h hhigh rfl rfl (Int.lt_succ index)
  | jump target =>
    have hlt := Program.forward_target hforward hlow hhigh hi (.inl hcause.1) hcause.2
    exact ascends_of_advance h hhigh rfl rfl hlt
  | call target =>
    have hlt := Program.forward_target hforward hlow hhigh hi (.inr hcause.1) hcause.2
    -- The other frames lie behind the call, and the new one does not lie ahead of the target.
    exact ascends_of_call h hhigh hrecorded rfl rfl hlt
  | ret target =>
    obtain ⟨rest, hframes⟩ := List.head?_eq_some_iff.mp hcause.2
    have htail : c.frames = target :: c.frames.tail := by
      rw [frames, hframes]
      rfl
    exact ascends_of_return h hrecorded rfl htail

end Cpu

theorem length_le_of_falling {l : List Int} {n : Int} (hfalling : l.Pairwise (· > ·))
    (hn : 0 ≤ n) (hrange : ∀ x ∈ l, 1 ≤ x ∧ x ≤ n) : l.length ≤ n := by
  induction l generalizing n with
  | nil => exact hn
  | cons x rest ih =>
    obtain ⟨hlow, hhigh⟩ := hrange x List.mem_cons_self
    obtain ⟨hbelow, hrest⟩ := List.pairwise_cons.mp hfalling
    have hlength : (rest.length : Int) ≤ x - 1 := by
      refine ih hrest (by omega) ?_
      intro y hy
      have hlt := hbelow y hy
      have hpos := (hrange y (List.mem_cons_of_mem x hy)).1
      omega
    rw [List.length_cons]
    omega

namespace Cpu

variable {c : Cpu} {index : Int}

theorem Ascends.outermostFirst_rising (h : c.Ascends index) :
    c.machine.stack.outermostFirst.Pairwise (· < ·) :=
  List.pairwise_reverse.mpr (List.pairwise_cons.mp h.falling).2

theorem Ascends.depth_le (h : c.Ascends index) : c.machine.stack.depth ≤ c.program.size := by
  have hle : (c.frames.length : Int) ≤ c.program.size := by
    refine length_le_of_falling (List.pairwise_cons.mp h.falling).2 (by omega) ?_
    intro frame hframe
    exact ⟨(h.recorded frame hframe).pos, (h.recorded frame hframe).le_size⟩
  exact Int.ofNat_le.mp hle

end Cpu

end TickMachine
