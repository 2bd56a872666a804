import TickMachine.Proofs.Effect
import TickMachine.Proofs.Literal

namespace TickMachine

inductive Role where
  | register
  | address
  | number
  /-- Where a jump or a call leads. -/
  | target
deriving DecidableEq, Repr

/-- The operands that an operation looks at, from left to right. -/
def Op.roles : Op → List Role
  | .noop | .ret => []
  | .jmp | .call => [.target]
  | .add | .sub | .or | .xor | .and => [.register, .register, .register]
  | .not => [.register]
  | .rsh => [.register, .register]
  | .imm => [.register, .number]
  | .rlod | .rstr => [.register, .address]

def Except.forget {ε α : Type} (x : Except ε α) : Except ε Unit := x.map fun _ => ()

/-- Whether a token can stand in a role, or the trap that refuses it. -/
def Role.judge (r : Role) (p : Program) (m : Machine) (token : String) : Except Trap Unit :=
  match r with
  | .register => Except.forget (m.registers.locate token)
  | .address => Except.forget (m.memory.locate token)
  | .number => Except.forget (Literal.number token)
  | .target => Except.forget (p.resolve token)

namespace Instruction

variable (i : Instruction) (p : Program) (m : Machine)

/-- How the operand at a place is judged; a missing one is refused. -/
def look (r : Role) (n : Nat) : Except Trap Unit := i.operand n >>= r.judge p m

def examine : List Role → Nat → Except Trap Unit
  | [], _ => .ok ()
  | r :: rest, n => do
    i.look p m r n
    examine rest (n + 1)

end Instruction

theorem Except.forget_bind {ε α β : Type} {x : Except ε α} {y z : Except ε Unit}
    {f : α → Except ε β} (hx : forget x = y) (hf : ∀ a, forget (f a) = z) :
    forget (x >>= f) = y >>= fun _ => z := by
  cases x with
  | error e =>
    subst hx
    rfl
  | ok a =>
    subst hx
    exact hf a

theorem Except.forget_eq_error {ε α : Type} {x : Except ε α} {e : ε} :
    forget x = .error e ↔ x = .error e := by
  cases x <;> simp [forget, Except.map]

namespace Instruction

variable {i : Instruction} {p : Program} {m : Machine}

theorem forget_register (n : Nat) :
    Except.forget (i.place m.registers n) = i.look p m .register n := by
  unfold place look
  cases i.operand n <;> rfl

theorem forget_address (n : Nat) : Except.forget (i.place m.memory n) = i.look p m .address n := by
  unfold place look
  cases i.operand n <;> rfl

theorem forget_immediate (n : Nat) : Except.forget (i.immediate n) = i.look p m .number n := by
  unfold immediate look
  cases i.operand n <;> rfl

theorem forget_target (n : Nat) : Except.forget (i.target p n) = i.look p m .target n := by
  unfold target look
  cases i.operand n <;> rfl

theorem forget_combined (f : Nat → Nat → Int) :
    Except.forget (i.combined m f) = i.examine p m [.register, .register, .register] 0 := by
  apply Except.forget_bind (forget_register 0)
  intro a
  apply Except.forget_bind (forget_register 1)
  intro b
  apply Except.forget_bind (forget_register 2)
  intro c
  rfl

/-- Apart from the operations without operands, an instruction traps as its operands do. -/
theorem forget_effect (hnoop : i.op ≠ .noop) (hret : i.op ≠ .ret) :
    Except.forget (i.effect p m) = i.examine p m i.op.roles 0 := by
  unfold effect
  cases hop : i.op with
  | noop => exact absurd hop hnoop
  | ret => exact absurd hop hret
  | jmp => exact Except.forget_bind (forget_target 0) fun _ => rfl
  | call => exact Except.forget_bind (forget_target 0) fun _ => rfl
  | add => exact forget_combined _
  | sub => exact forget_combined _
  | or => exact forget_combined _
  | xor => exact forget_combined _
  | and => exact forget_combined _
  | not => exact Except.forget_bind (forget_register 0) fun _ => rfl
  | rsh =>
    apply Except.forget_bind (forget_register 0)
    intro a
    exact Except.forget_bind (forget_register 1) fun _ => rfl
  | imm =>
    apply Except.forget_bind (forget_register 0)
    intro a
    exact Except.forget_bind (forget_immediate 1) fun _ => rfl
  | rlod =>
    apply Except.forget_bind (forget_register 0)
    intro a
    exact Except.forget_bind (forget_address 1) fun _ => rfl
  | rstr =>
    apply Except.forget_bind (forget_register 0)
    intro a
    exact Except.forget_bind (forget_address 1) fun _ => rfl

/-- Of the operands from place `n` on, the one `k` places further is the first that is refused. -/
def RefusedFirst (i : Instruction) (p : Program) (m : Machine) (roles : List Role) (n k : Nat)
    (t : Trap) : Prop :=
  ∃ r, roles[k]? = some r ∧ i.look p m r (n + k) = .error t ∧
    ∀ j < k, ∀ q, roles[j]? = some q → i.look p m q (n + j) = .ok ()

section RefusedFirst

variable {r : Role} {rest : List Role} {n k : Nat} {t : Trap}

theorem refusedFirst_zero :
    i.RefusedFirst p m (r :: rest) n 0 t ↔ i.look p m r n = .error t := by
  simp [RefusedFirst]

theorem refusedFirst_succ :
    i.RefusedFirst p m (r :: rest) n (k + 1) t ↔
      i.look p m r n = .ok () ∧ i.RefusedFirst p m rest (n + 1) k t := by
  have hplace : ∀ j, n + 1 + j = n + (j + 1) := by
    intro j
    omega
  constructor
  · rintro ⟨q, hq, hk, hbefore⟩
    refine ⟨hbefore 0 (by omega) r rfl, q, hq, by rw [hplace, hk], ?_⟩
    intro j hj q' hq'
    rw [hplace]
    exact hbefore (j + 1) (by omega) q' hq'
  · rintro ⟨hr, q, hq, hk, hbefore⟩
    refine ⟨q, hq, by rw [← hplace, hk], ?_⟩
    intro j hj q' hq'
    cases j with
    | zero =>
      obtain rfl : r = q' := by simpa using hq'
      exact hr
    | succ j =>
      rw [← hplace]
      exact hbefore j (by omega) q' hq'

theorem exists_refusedFirst_cons :
    (∃ k, i.RefusedFirst p m (r :: rest) n k t) ↔
      i.look p m r n = .error t ∨
        i.look p m r n = .ok () ∧ ∃ k, i.RefusedFirst p m rest (n + 1) k t := by
  constructor
  · rintro ⟨k, hk⟩
    cases k with
    | zero => exact .inl (refusedFirst_zero.mp hk)
    | succ k =>
      obtain ⟨hr, hrest⟩ := refusedFirst_succ.mp hk
      exact .inr ⟨hr, k, hrest⟩
  · rintro (hr | ⟨hr, k, hrest⟩)
    · exact ⟨0, refusedFirst_zero.mpr hr⟩
    · exact ⟨k + 1, refusedFirst_succ.mpr ⟨hr, hrest⟩⟩

end RefusedFirst

theorem examine_eq_error_iff {roles : List Role} {n : Nat} {t : Trap} :
    i.examine p m roles n = .error t ↔ ∃ k, i.RefusedFirst p m roles n k t := by
  induction roles generalizing n with
  | nil => simp [examine, RefusedFirst]
  | cons r rest ih =>
    rw [exists_refusedFirst_cons, ← ih, examine]
    cases i.look p m r n <;> simp [bind, Except.bind]

end Instruction

/-- A token is oversized in a role when it is to be read as an integer and has too many digits; a
label is not read. -/
def Role.Oversized (r : Role) (p : Program) (token : String) (digits : Nat) : Prop :=
  Literal.read token = .oversized digits ∧ (r = .target → p.labels.find? token = none)

/-- What a token is read as can be written, so a bank that refuses it can say so. -/
theorem Bank.locate_of_value {token : String} {v : Int} (b : Bank)
    (h : Literal.read token = .value v) : b.locate token =
      if 0 ≤ v ∧ v < b.size then .ok v.toNat else .error (.fault (.outOfBank b.kind v)) := by
  rw [locate, h]
  simp only [check, refusal, Literal.isWritable_of_read h, if_true]

theorem Bank.locate_oversized_iff {b : Bank} {token : String} {digits : Nat} :
    b.locate token = .error (.oversizedLiteral digits) ↔
      Literal.read token = .oversized digits := by
  cases hread : Literal.read token with
  | oversized d => simp [locate, hread]
  | notInteger => simp [locate, hread]
  | value v =>
    rw [locate_of_value b hread]
    split <;> simp

theorem Literal.number_oversized_iff {token : String} {digits : Nat} :
    Literal.number token = .error (.oversizedLiteral digits) ↔ read token = .oversized digits := by
  unfold number
  cases read token <;> simp

theorem Program.resolve_oversized_iff {p : Program} {token : String} {digits : Nat} :
    p.resolve token = .error (.oversizedLiteral digits) ↔
      Literal.read token = .oversized digits ∧ p.labels.find? token = none := by
  unfold resolve
  cases p.labels.find? token with
  | some index => simp
  | none => cases Literal.read token <;> simp

theorem Role.judge_oversized_iff {r : Role} {p : Program} {m : Machine} {token : String}
    {digits : Nat} :
    r.judge p m token = .error (.oversizedLiteral digits) ↔ r.Oversized p token digits := by
  cases r with
  | register => simp [judge, Oversized, Except.forget_eq_error, Bank.locate_oversized_iff]
  | address => simp [judge, Oversized, Except.forget_eq_error, Bank.locate_oversized_iff]
  | number => simp [judge, Oversized, Except.forget_eq_error, Literal.number_oversized_iff]
  | target => simp [judge, Oversized, Except.forget_eq_error, Program.resolve_oversized_iff]

namespace Instruction

variable {i : Instruction} {p : Program} {m : Machine}

/-- The operand at place `k` is an oversized literal, and no operand in front of it is refused. -/
def StumblesOver (i : Instruction) (p : Program) (m : Machine) (k digits : Nat) : Prop :=
  ∃ r token, i.op.roles[k]? = some r ∧ i.operands[k]? = some token ∧ r.Oversized p token digits ∧
    ∀ j < k, ∀ q, i.op.roles[j]? = some q → i.look p m q j = .ok ()

theorem look_oversized_iff {r : Role} {k digits : Nat} :
    i.look p m r k = .error (.oversizedLiteral digits) ↔
      ∃ token, i.operands[k]? = some token ∧ r.Oversized p token digits := by
  unfold look operand
  cases i.operands[k]? with
  | none => simp [bind, Except.bind]
  | some token => simpa [bind, Except.bind] using Role.judge_oversized_iff

theorem effect_oversized_iff {digits : Nat} :
    i.effect p m = .error (.oversizedLiteral digits) ↔ ∃ k, i.StumblesOver p m k digits := by
  -- The two operations without operands trap for reasons of their own.
  by_cases hnoop : i.op = .noop
  · simp [effect, StumblesOver, hnoop, Op.roles]
  by_cases hret : i.op = .ret
  · simp only [effect, StumblesOver, hret, Op.roles]
    cases m.stack.top? <;> simp
  rw [← Except.forget_eq_error, forget_effect hnoop hret, examine_eq_error_iff]
  apply exists_congr
  intro k
  simp only [RefusedFirst, StumblesOver, Nat.zero_add, look_oversized_iff]
  constructor
  · rintro ⟨r, hr, ⟨token, htoken, hover⟩, hbefore⟩
    exact ⟨r, token, hr, htoken, hover, hbefore⟩
  · rintro ⟨r, token, hr, htoken, hover, hbefore⟩
    exact ⟨r, hr, ⟨token, htoken, hover⟩, hbefore⟩

end Instruction

def Trap.isRefusal : Trap → Bool
  | .fault _ | .oversizedLiteral _ => true
  | .emptyCallStack | .halt | .unwritable => false

def Trap.endsRun : Trap → Bool
  | .emptyCallStack | .halt => true
  | .fault _ | .oversizedLiteral _ | .unwritable => false

theorem Bank.locate_refusal {b : Bank} {token : String} {t : Trap} (h : b.locate token = .error t) :
    t.isRefusal = true := by
  cases hread : Literal.read token with
  | oversized d =>
    rw [locate, hread] at h
    cases h
    rfl
  | notInteger =>
    rw [locate, hread] at h
    cases h
    rfl
  | value v =>
    rw [locate_of_value b hread] at h
    split at h <;> cases h
    rfl

theorem Literal.number_refusal {token : String} {t : Trap} (h : number token = .error t) :
    t.isRefusal = true := by
  unfold number at h
  split at h <;> cases h <;> rfl

theorem Program.resolve_refusal {p : Program} {token : String} {t : Trap}
    (h : p.resolve token = .error t) : t.isRefusal = true := by
  unfold resolve at h
  split at h
  · cases h
  · split at h <;> cases h <;> rfl

namespace Instruction

variable {i : Instruction} {p : Program} {m : Machine}

theorem look_refusal {r : Role} {n : Nat} {t : Trap} (h : i.look p m r n = .error t) :
    t.isRefusal = true := by
  unfold look operand at h
  cases hn : i.operands[n]? with
  | none =>
    rw [hn] at h
    cases h
    rfl
  | some token =>
    rw [hn] at h
    have hjudge : r.judge p m token = .error t := h
    cases r with
    | register => exact Bank.locate_refusal (Except.forget_eq_error.mp hjudge)
    | address => exact Bank.locate_refusal (Except.forget_eq_error.mp hjudge)
    | number => exact Literal.number_refusal (Except.forget_eq_error.mp hjudge)
    | target => exact Program.resolve_refusal (Except.forget_eq_error.mp hjudge)

theorem effect_refusal {t : Trap} (hnoop : i.op ≠ .noop) (hret : i.op ≠ .ret)
    (h : i.effect p m = .error t) : t.isRefusal = true := by
  rw [← Except.forget_eq_error, forget_effect hnoop hret, examine_eq_error_iff] at h
  obtain ⟨k, r, _, hlook, _⟩ := h
  exact look_refusal hlook

/-- An instruction traps to end the run exactly when it is there to halt it, or to return and there
is no call to return from. -/
theorem effect_ends_iff :
    (∃ t, i.effect p m = .error t ∧ t.endsRun = true) ↔
      i.op = .noop ∨ i.op = .ret ∧ m.stack.frames = [] := by
  by_cases hnoop : i.op = .noop
  · simp [effect, hnoop, Trap.endsRun]
  by_cases hret : i.op = .ret
  · cases hf : m.stack.frames <;> simp [effect, hret, CallStack.top?, hf, Trap.endsRun]
  constructor
  · rintro ⟨t, ht, hends⟩
    have hrefusal := effect_refusal hnoop hret ht
    cases t <;> simp [Trap.isRefusal, Trap.endsRun] at hrefusal hends
  · rintro (hop | ⟨hop, _⟩)
    · exact absurd hop hnoop
    · exact absurd hop hret

/-- No instruction comes upon a number that cannot be written. -/
theorem effect_ne_unwritable : i.effect p m ≠ .error .unwritable := by
  intro h
  by_cases hnoop : i.op = .noop
  · simp [effect, hnoop] at h
  by_cases hret : i.op = .ret
  · cases hf : m.stack.frames <;> simp [effect, hret, CallStack.top?, hf] at h
  · cases effect_refusal hnoop hret h

end Instruction
end TickMachine
