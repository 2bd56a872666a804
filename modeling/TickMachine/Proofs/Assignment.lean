import TickMachine.Proofs.Literal
import TickMachine.Proofs.Step

namespace TickMachine

inductive Cell where
  | register (place : Nat)
  | memory (place : Nat)
deriving DecidableEq, Repr

def Machine.cell (m : Machine) : Cell → Nat
  | .register place => (m.registers.read place).toNat
  | .memory place => (m.memory.read place).toNat

def Bank.Names (b : Bank) (token : String) (place : Nat) : Prop :=
  Literal.Spells token place ∧ place < b.size

instance (b : Bank) (token : String) (place : Nat) : Decidable (b.Names token place) :=
  inferInstanceAs (Decidable (_ ∧ _))

/-- What the operations on three registers make of the numbers in the first two. -/
def Op.combination? : Op → Option (Nat → Nat → Int)
  | .add => some fun a b => ((b : Int) + a) % 256
  | .sub => some fun a b => ((b : Int) - a) % 256
  | .or => some fun a b => (a ||| b : Nat)
  | .xor => some fun a b => (a ^^^ b : Nat)
  | .and => some fun a b => (a &&& b : Nat)
  | _ => none

/-- The cell that an operation writes and the number that it puts there, by the tokens of its
operands. Tokens behind them are ignored. -/
inductive Op.Assigns (m : Machine) : Op → List String → Cell → Int → Prop where
  | combine {op : Op} {f : Nat → Nat → Int} {s t u : String} {a b c : Nat} {others : List String}
      (hf : op.combination? = some f) (hs : m.registers.Names s a) (ht : m.registers.Names t b)
      (hu : m.registers.Names u c) :
      Assigns m op (s :: t :: u :: others) (.register c)
        (f (m.cell (.register a)) (m.cell (.register b)))
  | not {s : String} {a : Nat} {others : List String} (hs : m.registers.Names s a) :
      Assigns m .not (s :: others) (.register a) (255 - m.cell (.register a))
  | rsh {s t : String} {a b : Nat} {others : List String} (hs : m.registers.Names s a)
      (ht : m.registers.Names t b) :
      Assigns m .rsh (s :: t :: others) (.register b) (m.cell (.register a) / 2)
  | imm {s t : String} {a : Nat} {v : Int} {others : List String} (hs : m.registers.Names s a)
      (ht : Literal.Spells t v) : Assigns m .imm (s :: t :: others) (.register a) (v % 256)
  | rlod {s t : String} {a n : Nat} {others : List String} (hs : m.registers.Names s a)
      (ht : m.memory.Names t n) :
      Assigns m .rlod (s :: t :: others) (.register a) (m.cell (.memory n))
  | rstr {s t : String} {a n : Nat} {others : List String} (hs : m.registers.Names s a)
      (ht : m.memory.Names t n) :
      Assigns m .rstr (s :: t :: others) (.memory n) (m.cell (.register a))

/-- One cell has been given a number, and all else is as it was. -/
structure Machine.Assigned (m m' : Machine) (cell : Cell) (v : Int) : Prop where
  written : (m'.cell cell : Int) = v
  others : ∀ other, other ≠ cell → m'.cell other = m.cell other
  registers : m'.registers.size = m.registers.size
  memory : m'.memory.size = m.memory.size
  stack : m'.stack = m.stack

namespace Byte

theorem emod_of_lt {n : Nat} (h : n < 256) : (n : Int) % 256 = n := by omega

variable (x y : UInt8)

theorem or_lt : x.toNat ||| y.toNat < 256 := Nat.or_lt_two_pow x.toNat_lt y.toNat_lt

theorem xor_lt : x.toNat ^^^ y.toNat < 256 := Nat.xor_lt_two_pow x.toNat_lt y.toNat_lt

theorem and_lt : x.toNat &&& y.toNat < 256 := Nat.and_lt_two_pow x.toNat y.toNat_lt

end Byte

namespace Cell

def store : Cell → UInt8 → Effect
  | register place, value => .setRegister place value
  | memory place, value => .setMemory place value

def In (m : Machine) : Cell → Prop
  | register place => place < m.registers.size
  | memory place => place < m.memory.size

theorem cell_store {cell : Cell} {m : Machine} (h : cell.In m) (value : UInt8) (index : Int)
    (other : Cell) : ((cell.store value).apply index m).cell other =
      if other = cell then value.toNat else m.cell other := by
  match cell, other, h with
  | register place, register other, h =>
    simp only [store, Effect.apply, Machine.cell, register.injEq]
    rw [Bank.read_write _ h]
    split <;> rfl
  | memory place, memory other, h =>
    simp only [store, Effect.apply, Machine.cell, memory.injEq]
    rw [Bank.read_write _ h]
    split <;> rfl
  | register place, memory other, _ => rfl
  | memory place, register other, _ => rfl

theorem assigned_store {cell : Cell} {m : Machine} (h : cell.In m) (z index : Int) :
    m.Assigned ((cell.store (.ofInt z)).apply index m) cell (z % 256) := by
  refine ⟨?_, ?_, ?_, ?_, ?_⟩
  · rw [cell_store h, if_pos rfl, Byte.toNat_ofInt]
  · intro other hne
    rw [cell_store h, if_neg hne]
  · cases cell <;> simp [store, Effect.apply]
  · cases cell <;> simp [store, Effect.apply]
  · cases cell <;> rfl

end Cell

theorem Bank.locate_of_names {b : Bank} {token : String} {place : Nat} (h : b.Names token place) :
    b.locate token = .ok place := by
  have hcheck : b.check place = .ok place := check_eq_ok_iff.mpr ⟨rfl, h.2⟩
  rw [locate, Literal.read_of_spells h.1]
  exact hcheck

namespace Instruction

variable {i : Instruction} {m : Machine}

theorem place_of_names {b : Bank} {token : String} {n place : Nat}
    (ht : i.operands[n]? = some token) (h : b.Names token place) : i.place b n = .ok place := by
  rw [Instruction.place, operand, ht]
  exact Bank.locate_of_names h

theorem immediate_of_spells {token : String} {n : Nat} {v : Int}
    (ht : i.operands[n]? = some token) (h : Literal.Spells token v) : i.immediate n = .ok v := by
  rw [immediate, operand, ht]
  change Literal.number token = .ok v
  rw [Literal.number, Literal.read_of_spells h]

/-- Both registers are read before the third is written, so it may be one of them. -/
theorem combined_of_names {s t u : String} {a b c : Nat} {others : List String}
    (hi : i.operands = s :: t :: u :: others) (hs : m.registers.Names s a)
    (ht : m.registers.Names t b) (hu : m.registers.Names u c) (g : Nat → Nat → Int) :
    i.combined m g =
      .ok ((Cell.register c).store (.ofInt (g (m.cell (.register a)) (m.cell (.register b))))) := by
  have ha : i.place m.registers 0 = .ok a := place_of_names (by rw [hi]; rfl) hs
  have hb : i.place m.registers 1 = .ok b := place_of_names (by rw [hi]; rfl) ht
  have hc : i.place m.registers 2 = .ok c := place_of_names (by rw [hi]; rfl) hu
  rw [combined, ha, hb, hc]
  rfl

/-- The operations on three registers agree with the table up to the byte that is stored. -/
theorem effect_of_combination {f : Nat → Nat → Int} {s t u : String} {a b c : Nat}
    {others : List String} (p : Program) (hf : i.op.combination? = some f)
    (hi : i.operands = s :: t :: u :: others) (hs : m.registers.Names s a)
    (ht : m.registers.Names t b) (hu : m.registers.Names u c) :
    ∃ z, i.effect p m = .ok ((Cell.register c).store (.ofInt z)) ∧
      z % 256 = f (m.cell (.register a)) (m.cell (.register b)) := by
  have hcombined := combined_of_names hi hs ht hu
  unfold effect
  cases hop : i.op with
  | add =>
    rw [hop] at hf
    cases hf
    exact ⟨_, hcombined _, rfl⟩
  | sub =>
    rw [hop] at hf
    cases hf
    exact ⟨_, hcombined _, rfl⟩
  -- The table takes no remainder for these: two bytes combine to a byte.
  | or =>
    rw [hop] at hf
    cases hf
    exact ⟨_, hcombined _, Byte.emod_of_lt (Byte.or_lt _ _)⟩
  | xor =>
    rw [hop] at hf
    cases hf
    exact ⟨_, hcombined _, Byte.emod_of_lt (Byte.xor_lt _ _)⟩
  | and =>
    rw [hop] at hf
    cases hf
    exact ⟨_, hcombined _, Byte.emod_of_lt (Byte.and_lt _ _)⟩
  | noop | jmp | call | ret | not | rsh | imm | rlod | rstr =>
    rw [hop] at hf
    cases hf

theorem effect_of_assigns {cell : Cell} {v : Int} (p : Program)
    (h : Op.Assigns m i.op i.operands cell v) :
    cell.In m ∧ ∃ z, i.effect p m = .ok (cell.store (.ofInt z)) ∧ z % 256 = v := by
  generalize hop : i.op = op at h
  generalize hi : i.operands = operands at h
  cases h with
  | combine hf hs ht hu => exact ⟨hu.2, effect_of_combination p (hop ▸ hf) hi hs ht hu⟩
  | @not s a others hs =>
    have ha : i.place m.registers 0 = .ok a := place_of_names (by rw [hi]; rfl) hs
    have hbyte := (m.registers.read a).toNat_lt
    refine ⟨hs.2, _, by simp only [effect, hop, ha]; rfl, ?_⟩
    simp only [Machine.cell]
    omega
  | @rsh s t a b others hs ht =>
    have ha : i.place m.registers 0 = .ok a := place_of_names (by rw [hi]; rfl) hs
    have hb : i.place m.registers 1 = .ok b := place_of_names (by rw [hi]; rfl) ht
    have hbyte := (m.registers.read a).toNat_lt
    have hhalf : (m.registers.read a).toNat >>> 1 = (m.registers.read a).toNat / 2 := rfl
    refine ⟨ht.2, _, by simp only [effect, hop, ha, hb]; rfl, ?_⟩
    simp only [Machine.cell, hhalf]
    omega
  | @imm s t a v others hs ht =>
    have ha : i.place m.registers 0 = .ok a := place_of_names (by rw [hi]; rfl) hs
    have hv : i.immediate 1 = .ok v := immediate_of_spells (by rw [hi]; rfl) ht
    exact ⟨hs.2, v, by simp only [effect, hop, ha, hv]; rfl, rfl⟩
  | @rlod s t a n others hs ht =>
    have ha : i.place m.registers 0 = .ok a := place_of_names (by rw [hi]; rfl) hs
    have hn : i.place m.memory 1 = .ok n := place_of_names (by rw [hi]; rfl) ht
    exact ⟨hs.2, _, by simp only [effect, hop, ha, hn]; rfl, Byte.emod_of_lt (UInt8.toNat_lt _)⟩
  | @rstr s t a n others hs ht =>
    have ha : i.place m.registers 0 = .ok a := place_of_names (by rw [hi]; rfl) hs
    have hn : i.place m.memory 1 = .ok n := place_of_names (by rw [hi]; rfl) ht
    exact ⟨ht.2, _, by simp only [effect, hop, ha, hn]; rfl, Byte.emod_of_lt (UInt8.toNat_lt _)⟩

end Instruction

namespace Cpu

variable {c : Cpu} {index : Int}

theorem step_of_assigns {i : Instruction} {cell : Cell} {v : Int}
    (hi : c.program.instructionAt? index = some i)
    (h : Op.Assigns c.machine i.op i.operands cell v) :
    (c.step index).result = .ok (some (index + 1)) ∧
      c.machine.Assigned (c.step index).state.machine cell v := by
  obtain ⟨hin, z, heffect, rfl⟩ := Instruction.effect_of_assigns c.program h
  have hassigned := Cell.assigned_store hin z index
  have hnext : (cell.store (.ofInt z)).target? = none := by cases cell <;> rfl
  rw [step_of_instruction hi, worked, heffect]
  refine ⟨?_, hassigned⟩
  simp only [conclude, Effect.commit, hnext]
  rfl

/-- The processor after steps at these indices, one after the other, whatever each comes to. -/
def stepAll (c : Cpu) (indices : List Int) : Cpu :=
  indices.foldl (fun c index => (c.step index).state) c

/-- If a view of the machine changes at some lines only, it changes over many steps only when one of
them is at such a line. -/
theorem exists_of_stepAll {α : Type} (view : Machine → α) (At : Program → Int → Prop)
    (hstep : ∀ (c : Cpu) (index : Int), view (c.step index).state.machine ≠ view c.machine →
      At c.program index)
    {indices : List Int} (h : view (c.stepAll indices).machine ≠ view c.machine) :
    ∃ index ∈ indices, At c.program index := by
  induction indices generalizing c with
  | nil => exact absurd rfl h
  | cons index rest ih =>
    -- If the first step leaves the view alone, the change is due to the others.
    by_cases hfirst : view (c.step index).state.machine = view c.machine
    · rw [← hfirst] at h
      obtain ⟨later, hmem, hat⟩ := ih h
      rw [step_program] at hat
      exact ⟨later, List.mem_cons_of_mem index hmem, hat⟩
    · exact ⟨index, List.mem_cons_self, hstep c index hfirst⟩

end Cpu

namespace Program

def StoresAt (p : Program) (place : Nat) (index : Int) : Prop :=
  ∃ i token, p.instructionAt? index = some i ∧ i.op = .rstr ∧
    i.operands[1]? = some token ∧ Literal.read token = .value place

def CallsOrReturnsAt (p : Program) (index : Int) : Prop :=
  ∃ i, p.instructionAt? index = some i ∧ (i.op = .call ∨ i.op = .ret)

end Program

theorem Instruction.store_of_effect {i : Instruction} {p : Program} {m : Machine} {place : Nat}
    {value : UInt8} (h : i.effect p m = .ok (.setMemory place value)) :
    i.op = .rstr ∧ i.place m.memory 1 = .ok place := by
  have hop : i.op = .rstr := causes_of_effect h
  refine ⟨hop, ?_⟩
  simp only [effect, hop] at h
  obtain ⟨a, _, h⟩ := Except.bind_eq_ok h
  obtain ⟨n, hn, h⟩ := Except.bind_eq_ok h
  cases h
  exact hn

namespace Cpu

variable {c : Cpu} {index : Int}

theorem storesAt_of_step {place : Nat}
    (h : (c.step index).state.machine.cell (.memory place) ≠ c.machine.cell (.memory place)) :
    c.program.StoresAt place index := by
  obtain hs | ⟨i, e, hi, he, hs, _⟩ := step_cases c index
  · rw [hs] at h
    exact absurd rfl h
  rw [hs] at h
  cases e with
  | setMemory written value =>
    obtain ⟨hop, hplace⟩ := Instruction.store_of_effect he
    obtain ⟨token, htoken, hread, hlt⟩ := Instruction.place_eq_ok hplace
    -- A store to another place would not have shown here.
    have hin : (Cell.memory written).In c.machine := hlt
    have hcell := Cell.cell_store hin value index (.memory place)
    by_cases heq : place = written
    · subst heq
      exact ⟨i, token, hi, hop, htoken, hread⟩
    · rw [if_neg (by simpa using heq)] at hcell
      exact absurd hcell h
  | setRegister written value => exact absurd rfl h
  | jump target => exact absurd rfl h
  | call target => exact absurd rfl h
  | ret target => exact absurd rfl h

theorem callsOrReturnsAt_of_step (h : (c.step index).state.machine.stack ≠ c.machine.stack) :
    c.program.CallsOrReturnsAt index := by
  obtain hs | ⟨i, e, hi, he, hs, _⟩ := step_cases c index
  · rw [hs] at h
    exact absurd rfl h
  rw [hs] at h
  have hcause := Instruction.causes_of_effect he
  cases e with
  | call target => exact ⟨i, hi, .inl hcause.1⟩
  | ret target => exact ⟨i, hi, .inr hcause.1⟩
  | setRegister place value => exact absurd rfl h
  | setMemory place value => exact absurd rfl h
  | jump target => exact absurd rfl h

end Cpu

/-- An instruction that assigns, with operands that name cells, goes on at the next line, gives its
one cell the number that the table says of the machine before it, and leaves every other cell and
the stack alone. Over any steps, a cell of memory changes only if one of them is a store to it, and
the stack only if one of them is a call or a return. -/
theorem assignments_exact :
    (∀ (c : Cpu) (index : Int) (i : Instruction) (cell : Cell) (v : Int),
      c.program.instructionAt? index = some i →
      Op.Assigns c.machine i.op i.operands cell v →
      (c.step index).result = .ok (some (index + 1)) ∧
        c.machine.Assigned (c.step index).state.machine cell v) ∧
    (∀ (c : Cpu) (indices : List Int) (place : Nat),
      (c.stepAll indices).machine.cell (.memory place) ≠ c.machine.cell (.memory place) →
      ∃ index ∈ indices, c.program.StoresAt place index) ∧
    ∀ (c : Cpu) (indices : List Int), (c.stepAll indices).machine.stack ≠ c.machine.stack →
      ∃ index ∈ indices, c.program.CallsOrReturnsAt index := by
  refine ⟨?_, ?_, ?_⟩
  · intro c index i cell v hi h
    exact Cpu.step_of_assigns hi h
  · intro c indices place h
    exact Cpu.exists_of_stepAll (fun m => m.cell (.memory place)) (fun p => p.StoresAt place)
      (fun _ _ => Cpu.storesAt_of_step) h
  · intro c indices h
    exact Cpu.exists_of_stepAll Machine.stack Program.CallsOrReturnsAt
      (fun _ _ => Cpu.callsOrReturnsAt_of_step) h

/-- Two registers have been set, and the first line subtracts one from the other in place. -/
def subtracting : Cpu where
  program := .parse "SUB +1 00 0\nRSTR 0 15\nJMP 10 0"
  machine := ⟨(Machine.initial.registers.write 0 5).write 1 25, Machine.initial.memory, .empty⟩
  index := 0

theorem assignments_exact_subtracting :
    Op.Assigns subtracting.machine .sub ["+1", "00", "0"] (.register 0) 236 ∧
      (subtracting.step 0).result = .ok (some 1) ∧
      subtracting.machine.Assigned (subtracting.step 0).state.machine (.register 0) 236 ∧
      (∃ index ∈ [0, 1, 2], subtracting.program.StoresAt 15 index) ∧
      ∃ index ∈ [0, 1, 2], subtracting.program.CallsOrReturnsAt index := by
  have hassigns : Op.Assigns subtracting.machine .sub ["+1", "00", "0"] (.register 0) 236 := by
    have hnames : subtracting.machine.registers.Names "+1" 1 ∧
        subtracting.machine.registers.Names "00" 0 ∧
        subtracting.machine.registers.Names "0" 0 := by decide +kernel
    have hvalue : ((subtracting.machine.cell (.register 0) : Int) -
        subtracting.machine.cell (.register 1)) % 256 = 236 := by decide +kernel
    have hf : Op.combination? .sub = some fun a b : Nat => ((b : Int) - a) % 256 := rfl
    rw [← hvalue]
    exact .combine hf hnames.1 hnames.2.1 hnames.2.2
  obtain ⟨hassign, hmemory, hstack⟩ := assignments_exact
  obtain ⟨hresult, hassigned⟩ := hassign subtracting 0 ⟨.sub, ["+1", "00", "0"], "SUB +1 00 0"⟩
    (.register 0) 236 (by decide +kernel) hassigns
  exact ⟨hassigns, hresult, hassigned, hmemory _ _ _ (by decide +kernel),
    hstack _ _ (by decide +kernel)⟩

end TickMachine
