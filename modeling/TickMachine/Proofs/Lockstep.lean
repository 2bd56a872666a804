import Mathlib.Data.List.Forall2
import TickMachine.Proofs.Step

namespace TickMachine

/-- A trap without its wording. -/
inductive TrapKind where
  | fault (kind : FaultKind)
  | emptyCallStack
  | halt
  | oversizedLiteral (digits : Nat)
  | unwritable
deriving DecidableEq, Repr

def Trap.kind : Trap → TrapKind
  | .fault f => .fault f.kind
  | .emptyCallStack => .emptyCallStack
  | .halt => .halt
  | .oversizedLiteral digits => .oversizedLiteral digits
  | .unwritable => .unwritable

namespace Except

/-- Two things end alike: with the same value, or in traps of the same kind. -/
inductive Alike {α : Type} : Except Trap α → Except Trap α → Prop where
  | ok (a : α) : Alike (.ok a) (.ok a)
  | error {t u : Trap} (h : t.kind = u.kind) : Alike (.error t) (.error u)

variable {α β : Type}

theorem Alike.refl (x : Except Trap α) : Alike x x := by
  cases x with
  | ok a => exact .ok a
  | error t => exact .error rfl

theorem Alike.bind {x y : Except Trap α} {f g : α → Except Trap β} (hx : Alike x y)
    (hf : ∀ a, Alike (f a) (g a)) : Alike (x >>= f) (y >>= g) := by
  cases hx with
  | ok a => exact hf a
  | error h => exact .error h

theorem Alike.map {x y : Except Trap α} (hx : Alike x y) (f : α → β) :
    Alike (x.map f) (y.map f) := by
  cases hx with
  | ok a => exact .ok (f a)
  | error h => exact .error h

end Except

theorem Program.resolve_congr {p q : Program} (h : p.labels = q.labels) (token : String) :
    p.resolve token = q.resolve token := by
  rw [resolve, resolve, h]

namespace Instruction

/-- Two instructions that differ in nothing but the text they were read from. -/
structure SameButText (i j : Instruction) : Prop where
  op : i.op = j.op
  operands : i.operands = j.operands

variable {i j : Instruction} {p q : Program}

theorem SameButText.operand (h : i.SameButText j) (n : Nat) :
    Except.Alike (i.operand n) (j.operand n) := by
  unfold Instruction.operand
  rw [h.operands]
  cases j.operands[n]? with
  | some token => exact .ok token
  | none => exact .error rfl

theorem SameButText.place (h : i.SameButText j) (b : Bank) (n : Nat) :
    Except.Alike (i.place b n) (j.place b n) :=
  (h.operand n).bind fun token => .refl (b.locate token)

theorem SameButText.immediate (h : i.SameButText j) (n : Nat) :
    Except.Alike (i.immediate n) (j.immediate n) :=
  (h.operand n).bind fun token => .refl (Literal.number token)

theorem SameButText.target (h : i.SameButText j) (hl : p.labels = q.labels) (n : Nat) :
    Except.Alike (i.target p n) (j.target q n) := by
  apply (h.operand n).bind
  intro token
  rw [Program.resolve_congr hl]
  exact .refl _

theorem SameButText.combined (h : i.SameButText j) (m : Machine) (f : Nat → Nat → Int) :
    Except.Alike (i.combined m f) (j.combined m f) := by
  apply (h.place m.registers 0).bind
  intro a
  apply (h.place m.registers 1).bind
  intro b
  apply (h.place m.registers 2).bind
  intro c
  exact .ok _

theorem SameButText.effect (h : i.SameButText j) (hl : p.labels = q.labels) (m : Machine) :
    Except.Alike (i.effect p m) (j.effect q m) := by
  unfold Instruction.effect
  rw [h.op]
  cases j.op with
  | noop => exact .refl _
  | jmp => exact (h.target hl 0).bind fun _ => .ok _
  | call => exact (h.target hl 0).bind fun _ => .ok _
  | ret => exact .refl _
  | add => exact h.combined m _
  | sub => exact h.combined m _
  | or => exact h.combined m _
  | xor => exact h.combined m _
  | and => exact h.combined m _
  | not => exact (h.place m.registers 0).bind fun _ => .ok _
  | rsh =>
    apply (h.place m.registers 0).bind
    intro a
    exact (h.place m.registers 1).bind fun _ => .ok _
  | imm =>
    apply (h.place m.registers 0).bind
    intro a
    exact (h.immediate 1).bind fun _ => .ok _
  | rlod =>
    apply (h.place m.registers 0).bind
    intro a
    exact (h.place m.memory 1).bind fun _ => .ok _
  | rstr =>
    apply (h.place m.registers 0).bind
    intro a
    exact (h.place m.memory 1).bind fun _ => .ok _

end Instruction

namespace Program

/-- What executing a trimmed line comes to; blank lines and labels come to nothing. -/
def outcome (p : Program) (text : String) (m : Machine) : Except Trap (Option Effect) :=
  if text = "" ∨ Line.isLabel text = true then .ok none
  else
    match Instruction.decode text with
    | .error f => .error (.fault f)
    | .ok i => (i.effect p m).map some

/-- What a line comes to depends on the program through its labels alone. -/
theorem outcome_alike {p q : Program} (hl : p.labels = q.labels) (text : String) (m : Machine) :
    Except.Alike (p.outcome text m) (q.outcome text m) := by
  unfold outcome
  split
  · exact .ok none
  · split
    · exact .error rfl
    · rename_i i _
      have hsame : i.SameButText i := ⟨rfl, rfl⟩
      exact (hsame.effect hl m).map some

/-- Programs with the same labels, of which every two lines at one place come to the same on every
machine. -/
structure Alike (p q : Program) : Prop where
  labels : p.labels = q.labels
  lines : List.Forall₂ (fun a b => ∀ m,
    Except.Alike (p.outcome (Text.trim a) m) (q.outcome (Text.trim b) m)) p.lines q.lines

theorem Alike.size {p q : Program} (h : p.Alike q) : p.size = q.size := h.lines.length_eq

theorem getElem?_of_forall₂ {R : String → String → Prop} {as bs : List String}
    (h : List.Forall₂ R as bs) (n : Nat) :
    as[n]? = none ∧ bs[n]? = none ∨ ∃ a b, as[n]? = some a ∧ bs[n]? = some b ∧ R a b := by
  induction h generalizing n with
  | nil => exact .inl ⟨rfl, rfl⟩
  | cons hab _ ih =>
    cases n with
    | zero => exact .inr ⟨_, _, rfl, rfl, hab⟩
    | succ n => simpa using ih n

theorem lineAt_of_forall₂ {R : String → String → Prop} {p q : Program}
    (h : List.Forall₂ R p.lines q.lines) (index : Int) :
    (∃ e, p.lineAt index = .error e ∧ q.lineAt index = .error e) ∨
      ∃ a b, p.lineAt index = .ok a ∧ q.lineAt index = .ok b ∧ R a b := by
  have hsize : p.size = q.size := h.length_eq
  have hfrom : ∀ place, (∃ e, p.lineFrom place = .error e ∧ q.lineFrom place = .error e) ∨
      ∃ a b, p.lineFrom place = .ok a ∧ q.lineFrom place = .ok b ∧ R a b := by
    intro place
    unfold lineFrom
    split
    · exact .inl ⟨_, rfl, rfl⟩
    · obtain ⟨ha, hb⟩ | ⟨a, b, ha, hb, hab⟩ := getElem?_of_forall₂ h place.toNat
      · exact .inl ⟨.outOfRange, by rw [ha], by rw [hb]⟩
      · exact .inr ⟨a, b, by rw [ha], by rw [hb], hab⟩
  unfold lineAt
  rw [hsize]
  split
  · exact .inl ⟨_, rfl, rfl⟩
  · split
    · exact hfrom _
    · exact hfrom _

end Program

/-- Two replies with the same result, which leave the same machine. -/
structure Reply.Agree {α : Type} (r s : Reply Cpu Failure α) : Prop where
  result : r.result = s.result
  machine : r.state.machine = s.state.machine

namespace Cpu

variable {c d : Cpu} {index : Int}

def settle (index : Int) (m : Machine) : Except Trap (Option Effect) → Machine
  | .ok (some e) => e.apply index m
  | .ok none => m
  | .error _ => m

theorem visit_of_outcome (c : Cpu) (text : String) :
    (c.visit text).result =
        next c.index ((c.program.outcome text c.machine).map (·.bind Effect.target?)) ∧
      (c.visit text).state.machine =
        settle c.index c.machine (c.program.outcome text c.machine) := by
  unfold visit Program.outcome
  by_cases hb : text = ""
  · simp only [hb, if_true, true_or]
    exact ⟨rfl, rfl⟩
  cases hm : Line.isLabel text with
  | true =>
    simp only [hb, if_false, if_true, or_true]
    exact ⟨rfl, rfl⟩
  | false =>
    simp only [hb, if_false, false_or, Bool.false_eq_true]
    cases hd : Instruction.decode text with
    | error f =>
      simp only [execute, hd]
      exact ⟨rfl, rfl⟩
    | ok i =>
      simp only [execute, hd, Instruction.on_handle]
      cases i.effect c.program c.machine with
      | error t => exact ⟨rfl, rfl⟩
      | ok e => exact ⟨rfl, rfl⟩

theorem next_of_alike {x y : Except Trap (Option Int)} (h : Except.Alike x y) (index : Int) :
    next index x = next index y := by
  cases h with
  | ok a => rfl
  | @error t u h =>
    match t, u, h with
    | .fault _, .fault _, _ => rfl
    | .emptyCallStack, .emptyCallStack, _ => rfl
    | .halt, .halt, _ => rfl
    | .oversizedLiteral _, .oversizedLiteral _, rfl => rfl
    | .unwritable, .unwritable, _ => rfl

theorem settle_of_alike {x y : Except Trap (Option Effect)} (h : Except.Alike x y) (index : Int)
    (m : Machine) : settle index m x = settle index m y := by
  cases h with
  | ok a => rfl
  | error h => rfl

theorem step_of_line {line : String} (hl : c.program.lineAt index = .ok line) :
    (c.step index).result =
        next index ((c.program.outcome (Text.trim line) c.machine).map (·.bind Effect.target?)) ∧
      (c.step index).state.machine =
        settle index c.machine (c.program.outcome (Text.trim line) c.machine) := by
  have hstep : c.step index = (c.moveTo index).visit (Text.trim line) := by simp only [step, hl]
  rw [hstep]
  exact (c.moveTo index).visit_of_outcome (Text.trim line)

theorem step_agree (hp : c.program.Alike d.program) (hm : c.machine = d.machine) (index : Int) :
    (c.step index).Agree (d.step index) := by
  obtain ⟨e, hc, hd⟩ | ⟨a, b, hc, hd, hab⟩ := Program.lineAt_of_forall₂ hp.lines index
  · rw [step_of_fetch_error hc, step_of_fetch_error hd]
    exact ⟨rfl, hm⟩
  · have hsame := hab c.machine
    obtain ⟨hresult, hmachine⟩ := step_of_line hc
    obtain ⟨hresult', hmachine'⟩ := step_of_line hd
    rw [← hm] at hresult' hmachine'
    refine ⟨?_, ?_⟩
    · rw [hresult, hresult']
      exact next_of_alike (hsame.map _) index
    · rw [hmachine, hmachine']
      exact settle_of_alike hsame index c.machine

theorem inProgram_congr (h : c.program.size = d.program.size) : c.inProgram = d.inProgram := by
  funext index
  rw [inProgram, inProgram, h]

theorem run_agree (hp : c.program.Alike d.program) (hm : c.machine = d.machine)
    (index : Option Int) (limit : Nat) : (c.run index limit).Agree (d.run index limit) := by
  -- A step changes neither program, so what makes them alike is still there after it.
  induction limit generalizing c d index with
  | zero => exact ⟨rfl, hm⟩
  | succ limit ih =>
    rw [run, run, inProgram_congr hp.size]
    cases index.filter d.inProgram with
    | none => exact ⟨rfl, hm⟩
    | some here =>
      obtain ⟨hresult, hmachine⟩ := step_agree hp hm here
      have hprogram : (c.step here).state.program.Alike (d.step here).state.program := by
        rw [step_program, step_program]
        exact hp
      dsimp only
      generalize c.step here = r at hresult hmachine hprogram ⊢
      generalize d.step here = s at hresult hmachine hprogram ⊢
      obtain ⟨state, signals, result⟩ := r
      obtain ⟨state', signals', result'⟩ := s
      obtain rfl : result = result' := hresult
      cases result with
      | error e => exact ⟨rfl, hmachine⟩
      | ok next =>
        obtain ⟨hrest, hlast⟩ := ih hprogram hmachine next
        exact ⟨congrArg (Except.map _) hrest, hlast⟩

end Cpu

/-- Programs that run side by side, one line of the one for one line of the other. -/
structure Program.Lockstep (p q : Program) : Prop extends p.Alike q where
  length : p.size = q.size
  step : ∀ (m : Machine) (i j index : Int),
    ((Cpu.mk p m i).step index).Agree ((Cpu.mk q m j).step index)
  run : ∀ (m : Machine) (i j : Int) (index : Option Int) (limit : Nat),
    ((Cpu.mk p m i).run index limit).Agree ((Cpu.mk q m j).run index limit)

theorem Program.Alike.lockstep {p q : Program} (h : p.Alike q) : p.Lockstep q where
  toAlike := h
  length := h.size
  step m i j index := Cpu.step_agree (c := ⟨p, m, i⟩) (d := ⟨q, m, j⟩) h rfl index
  run m i j index limit := Cpu.run_agree (c := ⟨p, m, i⟩) (d := ⟨q, m, j⟩) h rfl index limit

end TickMachine
