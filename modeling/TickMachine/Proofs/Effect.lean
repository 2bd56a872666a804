import TickMachine.Handler

namespace TickMachine

theorem Except.bind_eq_ok {ε α β : Type} {x : Except ε α} {f : α → Except ε β} {b : β}
    (h : (x >>= f) = .ok b) : ∃ a, x = .ok a ∧ f a = .ok b := by
  match x, h with
  | .ok a, h => exact ⟨a, rfl, h⟩

theorem Except.map_eq_ok {ε α β : Type} {x : Except ε α} {f : α → β} {b : β}
    (h : f <$> x = .ok b) : ∃ a, x = .ok a ∧ f a = b := by
  match x, h with
  | .ok a, h => exact ⟨a, rfl, Except.ok.inj h⟩

inductive Effect where
  | setRegister (place : Nat) (value : UInt8)
  | setMemory (place : Nat) (value : UInt8)
  | jump (target : Int)
  | call (target : Int)
  | ret (target : Int)
deriving DecidableEq, Repr

namespace Effect

def apply (e : Effect) (index : Int) (m : Machine) : Machine :=
  match e with
  | setRegister place value => { m with registers := m.registers.write place value }
  | setMemory place value => { m with memory := m.memory.write place value }
  | jump _ => m
  | call _ => m.push (index + 1)
  | ret _ => { m with stack := m.stack.drop }

def target? : Effect → Option Int
  | jump target | call target | ret target => some target
  | setRegister .. | setMemory .. => none

end Effect

namespace Work

variable {α β : Type} (m : Machine)

@[simp]
theorem on_get : (get : Work Machine).on m = (.ok m, m) := rfl

@[simp]
theorem on_lift (e : Except Trap α) : (liftM e : Work α).on m = (e, m) := rfl

theorem on_bind (w : Work α) (f : α → Work β) :
    (w >>= f).on m = match w.on m with
      | (.ok a, m') => (f a).on m'
      | (.error t, m') => (.error t, m') := by
  obtain ⟨result, m', h⟩ : ∃ result m', w.on m = (result, m') := ⟨_, _, rfl⟩
  change ExceptT.bindCont f (w.on m).1 (w.on m).2 = _
  rw [h]
  cases result <;> rfl

end Work

namespace Instruction

theorem getElem?_of_operand {i : Instruction} {n : Nat} {token : String}
    (h : i.operand n = .ok token) : i.operands[n]? = some token := by
  unfold operand at h
  split at h
  · rename_i hget
    cases h
    exact hget
  · cases h

theorem place_eq_ok {i : Instruction} {b : Bank} {n place : Nat} (h : i.place b n = .ok place) :
    ∃ token, i.operands[n]? = some token ∧ Literal.read token = .value place ∧ place < b.size := by
  obtain ⟨token, htoken, hplace⟩ := Except.bind_eq_ok h
  refine ⟨token, getElem?_of_operand htoken, ?_⟩
  unfold Bank.locate at hplace
  cases hl : Literal.read token with
  | oversized digits => simp [hl] at hplace
  | notInteger => simp [hl] at hplace
  | value index =>
    simp only [hl] at hplace
    cases hc : b.check index with
    | error f =>
      rw [hc] at hplace
      cases hplace
    | ok place' =>
      rw [hc] at hplace
      obtain rfl : place' = place := Except.ok.inj hplace
      obtain ⟨rfl, hlt⟩ := Bank.check_eq_ok_iff.mp hc
      exact ⟨rfl, hlt⟩

theorem place_lt_size {i : Instruction} {b : Bank} {n place : Nat} (h : i.place b n = .ok place) :
    place < b.size := by
  obtain ⟨_, _, _, hlt⟩ := place_eq_ok h
  exact hlt

def combined (i : Instruction) (m : Machine) (f : Nat → Nat → Int) : Except Trap Effect := do
  let a ← i.place m.registers 0
  let b ← i.place m.registers 1
  let c ← i.place m.registers 2
  return .setRegister c (.ofInt (f (m.registers.read a).toNat (m.registers.read b).toNat))

/-- The effect of an instruction on a machine, or the trap that it ends in. -/
def effect (i : Instruction) (p : Program) (m : Machine) : Except Trap Effect :=
  match i.op with
  | .noop => .error .halt
  | .jmp => do return .jump (← i.target p 0)
  | .call => do return .call (← i.target p 0)
  | .ret =>
    match m.stack.top? with
    | some index => .ok (.ret index)
    | none => .error .emptyCallStack
  | .add => i.combined m fun a b => b + a
  | .sub => i.combined m fun a b => b - a
  | .or => i.combined m fun a b => (a ||| b : Nat)
  | .xor => i.combined m fun a b => (a ^^^ b : Nat)
  | .and => i.combined m fun a b => (a &&& b : Nat)
  | .not => do
    let a ← i.place m.registers 0
    return .setRegister a (.ofInt (-((m.registers.read a).toNat : Int) - 1))
  | .rsh => do
    let a ← i.place m.registers 0
    let b ← i.place m.registers 1
    return .setRegister b (.ofInt ((m.registers.read a).toNat >>> 1 : Nat))
  | .imm => do
    let a ← i.place m.registers 0
    let v ← i.immediate 1
    return .setRegister a (.ofInt v)
  | .rlod => do
    let a ← i.place m.registers 0
    let n ← i.place m.memory 1
    return .setRegister a (.ofInt (m.memory.read n).toNat)
  | .rstr => do
    let a ← i.place m.registers 0
    let n ← i.place m.memory 1
    return .setMemory n (.ofInt (m.registers.read a).toNat)

variable {i : Instruction} {p : Program} {m : Machine}

theorem exists_of_combined {f : Nat → Nat → Int} {e : Effect} (h : i.combined m f = .ok e) :
    ∃ place value, e = .setRegister place value := by
  obtain ⟨a, _, h⟩ := Except.bind_eq_ok h
  obtain ⟨b, _, h⟩ := Except.bind_eq_ok h
  obtain ⟨c, _, h⟩ := Except.bind_eq_ok h
  cases h
  exact ⟨c, _, rfl⟩

/-- Which operations can have an effect, and where a redirected execution goes on. -/
def Causes (i : Instruction) (p : Program) (m : Machine) : Effect → Prop
  | .setRegister .. => i.op ∉ [.noop, .jmp, .call, .ret, .rstr]
  | .setMemory .. => i.op = .rstr
  | .jump target => i.op = .jmp ∧ i.target p 0 = .ok target
  | .call target => i.op = .call ∧ i.target p 0 = .ok target
  | .ret target => i.op = .ret ∧ m.stack.top? = some target

theorem causes_of_effect {e : Effect} (h : i.effect p m = .ok e) : i.Causes p m e := by
  unfold effect at h
  cases hop : i.op with
  | noop => simp [hop] at h
  | jmp =>
    simp only [hop] at h
    obtain ⟨target, ht, h⟩ := Except.bind_eq_ok h
    cases h
    exact ⟨hop, ht⟩
  | call =>
    simp only [hop] at h
    obtain ⟨target, ht, h⟩ := Except.bind_eq_ok h
    cases h
    exact ⟨hop, ht⟩
  | ret =>
    simp only [hop] at h
    split at h
    · rename_i target ht
      cases h
      exact ⟨hop, ht⟩
    · cases h
  -- From here on a register is written, and that excludes the one operation that stores.
  | add | sub | or | xor | and =>
    simp only [hop] at h
    obtain ⟨place, value, rfl⟩ := exists_of_combined h
    simp [Causes, hop]
  | not =>
    simp only [hop] at h
    obtain ⟨a, _, h⟩ := Except.bind_eq_ok h
    cases h
    simp [Causes, hop]
  | rsh | imm | rlod =>
    simp only [hop] at h
    obtain ⟨a, _, h⟩ := Except.bind_eq_ok h
    obtain ⟨b, _, h⟩ := Except.bind_eq_ok h
    cases h
    simp [Causes, hop]
  | rstr =>
    simp only [hop] at h
    obtain ⟨a, _, h⟩ := Except.bind_eq_ok h
    obtain ⟨n, _, h⟩ := Except.bind_eq_ok h
    cases h
    exact hop

/-- A program lends nothing to an instruction but the targets that its operands stand for. -/
theorem effect_congr {q : Program} (h : ∀ token ∈ i.operands, p.resolve token = q.resolve token)
    (m : Machine) : i.effect p m = i.effect q m := by
  have htarget : i.target p 0 = i.target q 0 := by
    unfold target operand
    cases hn : i.operands[0]? with
    | none => rfl
    | some token => exact h token (List.mem_of_getElem? hn)
  simp only [effect, htarget]

end Instruction

namespace Effect

/-- All of an effect, or nothing of it. -/
def commit (index : Int) (m : Machine) : Except Trap Effect → Except Trap (Option Int) × Machine
  | .ok e => (.ok e.target?, e.apply index m)
  | .error t => (.error t, m)

end Effect

namespace Work

variable {α : Type} {m : Machine} {place : Nat}

theorem on_getRegister (h : place < m.registers.size) :
    (getRegister place).on m = (.ok (m.registers.read place).toNat, m) := by
  have hc : m.registers.check place = .ok place := Bank.check_eq_ok_iff.mpr ⟨rfl, h⟩
  simp only [getRegister, on_bind, on_get, Bank.get, hc]
  rfl

theorem on_getMemory (h : place < m.memory.size) :
    (getMemory place).on m = (.ok (m.memory.read place).toNat, m) := by
  have hc : m.memory.check place = .ok place := Bank.check_eq_ok_iff.mpr ⟨rfl, h⟩
  simp only [getMemory, on_bind, on_get, Bank.get, hc]
  rfl

theorem on_setRegister (h : place < m.registers.size) (value : Int) :
    (setRegister place value).on m =
      (.ok (), { m with registers := m.registers.write place (.ofInt value) }) := by
  have hc : m.registers.check place = .ok place := Bank.check_eq_ok_iff.mpr ⟨rfl, h⟩
  simp only [setRegister, on_bind, on_get, Machine.setRegister, Bank.set, hc]
  rfl

theorem on_setMemory (h : place < m.memory.size) (value : Int) :
    (setMemory place value).on m =
      (.ok (), { m with memory := m.memory.write place (.ofInt value) }) := by
  have hc : m.memory.check place = .ok place := Bank.check_eq_ok_iff.mpr ⟨rfl, h⟩
  simp only [setMemory, on_bind, on_get, Machine.setMemory, Bank.set, hc]
  rfl

/-- A check in front of the work: it changes nothing, and the rest may use what it found. -/
theorem on_bind_check {w : Work α} {e : Except Trap α} {f : α → Work (Option Int)}
    {g : α → Except Trap Effect} {index : Int} (hw : w.on m = (e, m))
    (hf : ∀ a, e = .ok a → (f a).on m = Effect.commit index m (g a)) :
    (w >>= f).on m = Effect.commit index m (e >>= g) := by
  rw [on_bind, hw]
  cases e with
  | error t => rfl
  | ok a => exact hf a rfl

end Work

namespace Instruction

variable (i : Instruction) (p : Program) (index : Int) (m : Machine)

theorem on_register (n : Nat) : (i.register n).on m = (i.place m.registers n, m) := rfl

theorem on_address (n : Nat) : (i.address n).on m = (i.place m.memory n, m) := rfl

theorem on_combine (f : Nat → Nat → Int) :
    (i.combine f).on m = Effect.commit index m (i.combined m f) := by
  unfold combine combined
  apply Work.on_bind_check (i.on_register m 0)
  intro a ha
  apply Work.on_bind_check (i.on_register m 1)
  intro b hb
  apply Work.on_bind_check (i.on_register m 2)
  intro c hc
  -- All three places have been checked, so that neither the reads nor the write can trap any more.
  have hx := Work.on_getRegister (place_lt_size ha)
  have hy := Work.on_getRegister (place_lt_size hb)
  simp only [Work.on_bind, hx, hy, Work.on_setRegister (place_lt_size hc)]
  rfl

/-- A handler has one effect, or it traps and has none. -/
theorem on_handle : (i.handle p index).on m = Effect.commit index m (i.effect p m) := by
  unfold handle effect
  cases i.op with
  | noop => rfl
  | jmp =>
    apply Work.on_bind_check (Work.on_lift m (i.target p 0))
    intro target _
    rfl
  | call =>
    -- The target is resolved before the push, which is why a call to nowhere leaves no frame.
    apply Work.on_bind_check (Work.on_lift m (i.target p 0))
    intro target _
    rfl
  | ret =>
    simp only [Work.pop, CallStack.pop?, Work.on_bind, Work.on_get]
    cases m.stack.top? <;> rfl
  | add => exact i.on_combine index m _
  | sub => exact i.on_combine index m _
  | or => exact i.on_combine index m _
  | xor => exact i.on_combine index m _
  | and => exact i.on_combine index m _
  | not =>
    apply Work.on_bind_check (i.on_register m 0)
    intro a ha
    simp only [Work.on_bind, Work.on_getRegister (place_lt_size ha),
      Work.on_setRegister (place_lt_size ha)]
    rfl
  | rsh =>
    apply Work.on_bind_check (i.on_register m 0)
    intro a ha
    apply Work.on_bind_check (i.on_register m 1)
    intro b hb
    simp only [Work.on_bind, Work.on_getRegister (place_lt_size ha),
      Work.on_setRegister (place_lt_size hb)]
    rfl
  | imm =>
    apply Work.on_bind_check (i.on_register m 0)
    intro a ha
    apply Work.on_bind_check (Work.on_lift m (i.immediate 1))
    intro v _
    simp only [Work.on_bind, Work.on_setRegister (place_lt_size ha)]
    rfl
  | rlod =>
    apply Work.on_bind_check (i.on_register m 0)
    intro a ha
    apply Work.on_bind_check (i.on_address m 1)
    intro n hn
    simp only [Work.on_bind, Work.on_getMemory (place_lt_size hn),
      Work.on_setRegister (place_lt_size ha)]
    rfl
  | rstr =>
    apply Work.on_bind_check (i.on_register m 0)
    intro a ha
    apply Work.on_bind_check (i.on_address m 1)
    intro n hn
    simp only [Work.on_bind, Work.on_getRegister (place_lt_size ha),
      Work.on_setMemory (place_lt_size hn)]
    rfl

end Instruction
end TickMachine
