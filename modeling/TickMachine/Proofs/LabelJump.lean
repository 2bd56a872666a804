import TickMachine.Proofs.Declarations
import TickMachine.Proofs.LabelIndex
import TickMachine.Proofs.Refusal
import TickMachine.Proofs.Turns

namespace TickMachine

namespace Line

theorem isLabel_of_jump {line command : String} {rest : List String}
    (hwords : Text.words line = command :: rest) (hcommand : Text.upper command = Op.jmp.name) :
    isLabel (Text.trim line) = false := by
  rw [isLabel, Text.head?_trim, hwords]
  apply decide_eq_false
  intro hmarker
  -- The marker has no upper case, so that it would still be there.
  obtain ⟨cs, hcs⟩ := List.head?_eq_some_iff.mp hmarker
  have hupper := congrArg String.toList hcommand
  rw [Text.upper, String.toList_ofList, hcs] at hupper
  cases hupper

end Line

namespace Program

variable {p : Program} {index : Nat} {line name : String} {others : List String} {op : Op}

theorem instructionAt?_of_jump (h : Line.Jump line op name others)
    (hline : p.lines[index]? = some line) (hwide : index < Hardware.indexLimit) :
    p.instructionAt? index = some ⟨op, name :: others, Text.trim line⟩ :=
  instructionAt?_eq_some_iff.mpr
    ⟨line, lineAt_of_getElem? hline hwide, h.statement, h.decode⟩

end Program

namespace Cpu

variable {c : Cpu} {index : Nat} {line name : String} {others : List String} {op : Op}

theorem step_of_labelJump {target : Nat} (h : Line.Jump line op name others)
    (hline : c.program.lines[index]? = some line) (hwide : index < Hardware.indexLimit)
    (hfound : c.program.labels.find? name = some target) :
    (c.step index).result = .ok (some target) ∧
      (c.step index).state.machine =
        if op = .call then c.machine.push (index + 1) else c.machine := by
  have hi := Program.instructionAt?_of_jump h hline hwide
  have htarget : Instruction.target ⟨op, name :: others, Text.trim line⟩ c.program 0 =
      .ok target := by
    change c.program.resolve name = .ok target
    rw [Program.resolve, hfound]
  rw [step_of_instruction hi, worked]
  obtain rfl | rfl := h.targets
  · simp only [Instruction.effect, htarget]
    exact ⟨rfl, rfl⟩
  · simp only [Instruction.effect, htarget]
    exact ⟨rfl, rfl⟩

theorem step_of_declaration (hmem : index ∈ Program.declarations c.program.lines name)
    (hwide : index < Hardware.indexLimit) :
    (c.step index).result = .ok (some (index + 1)) ∧
      (c.step index).state.machine = c.machine := by
  obtain ⟨line, hline, htrim⟩ := hmem
  have hlabel : Line.isLabel (Text.trim line) = true := by
    rw [htrim, Line.isLabel, String.toList_append]
    rfl
  have hfull : Text.trim line ≠ "" := by
    rw [htrim, Ne, ← String.toList_eq_nil_iff, String.toList_append]
    exact List.cons_ne_nil _ _
  rw [step_of_label (Program.lineAt_of_getElem? hline hwide) hfull hlabel]
  exact ⟨rfl, rfl⟩

end Cpu

/-- The table without the labels that are no words. -/
def LabelTable.onlyWords (t : LabelTable) : LabelTable :=
  ⟨t.entries.filter fun entry => Text.IsWord entry.1⟩

theorem LabelTable.find?_onlyWords {name : String} (h : Text.IsWord name) (t : LabelTable) :
    t.onlyWords.find? name = t.find? name := by
  unfold onlyWords find?
  induction t.entries with
  | nil => rfl
  | cons entry rest ih =>
    rw [List.filter_cons]
    split
    · rw [List.lookup_cons, List.lookup_cons, ih]
    · rename_i hentry
      have hne : (name == entry.1) = false := by
        rw [beq_eq_false_iff_ne]
        rintro rfl
        simp [h] at hentry
      rw [List.lookup_cons, hne, ih]

/-- Two programs with the same lines, whose tables differ at most in labels that are no words. -/
structure Program.AgreeOnWords (p q : Program) : Prop where
  lines : p.lines = q.lines
  labels : ∀ name, Text.IsWord name → p.labels.find? name = q.labels.find? name

namespace Program.AgreeOnWords

variable {p q : Program} (h : p.AgreeOnWords q)
include h

theorem lineAt (index : Int) : p.lineAt index = q.lineAt index := by
  unfold Program.lineAt lineFrom size
  rw [h.lines]

theorem effect {text : String} {i : Instruction} (hd : Instruction.decode text = .ok i)
    (m : Machine) : i.effect p m = i.effect q m := by
  apply Instruction.effect_congr
  intro token htoken
  rw [resolve, resolve, h.labels token (Instruction.isWord_of_decode hd token htoken)]

end Program.AgreeOnWords

/-- Two processors in the same state, with programs that agree on words. -/
structure Cpu.SameButLabels (c d : Cpu) : Prop where
  program : c.program.AgreeOnWords d.program
  machine : c.machine = d.machine
  index : c.index = d.index

namespace Cpu.SameButLabels

variable {c d : Cpu}

theorem moveTo (h : c.SameButLabels d) (index : Int) :
    (c.moveTo index).SameButLabels (d.moveTo index) := ⟨h.program, h.machine, rfl⟩

theorem load (h : c.SameButLabels d) (p : Program) : (c.load p).SameButLabels (d.load p) :=
  ⟨⟨rfl, fun _ _ => rfl⟩, h.machine, h.index⟩

theorem execute (h : c.SameButLabels d) (index : Int) (text : String) :
    Reply.Alike SameButLabels ((c.moveTo index).execute text) ((d.moveTo index).execute text) := by
  cases hd : Instruction.decode text with
  | error f =>
    simp only [Cpu.execute, hd]
    exact ⟨h.moveTo index, rfl, rfl⟩
  | ok i =>
    have hworked : c.worked index i = d.worked index i := by
      rw [worked, worked, h.machine, h.program.effect hd]
    rw [execute_of_decode hd, execute_of_decode hd, hworked]
    exact ⟨⟨h.program, rfl, rfl⟩, rfl, rfl⟩

theorem step (h : c.SameButLabels d) (index : Int) :
    Reply.Alike SameButLabels (c.step index) (d.step index) := by
  refine step_alike ?_ (h.moveTo index) (h.execute index)
  rw [h.program.lineAt]
  cases d.program.lineAt index with
  | error e => exact .inl ⟨e, rfl, rfl⟩
  | ok line => exact .inr ⟨line, line, rfl, rfl, rfl⟩

end Cpu.SameButLabels

def Bisimulation.wordLabels : Bisimulation where
  cpu := Cpu.SameButLabels
  source := Eq
  display := Eq
  size h := congrArg List.length h.program.lines
  snapshot h := by rw [h.machine]
  step h := h.step
  reset h := ⟨h.program, congrArg Machine.reset h.machine, h.index⟩
  read := by
    rintro a _ rfl
    cases a.read with
    | error e => exact .inl ⟨e, rfl, rfl⟩
    | ok text => exact .inr ⟨text, text, rfl, rfl, rfl, fun h => h.load (.parse text)⟩
  accept := @Display.accept_congr

/-- The session with the labels that are no words taken out of its table. -/
def Session.onlyWordLabels (s : Session) : Session :=
  let cpu := s.scheduler.cpu
  { s with scheduler := { s.scheduler with
      cpu := { cpu with program := ⟨cpu.program.lines, cpu.program.labels.onlyWords⟩ } } }

theorem Session.wordLabels_onlyWordLabels (s : Session) :
    Bisimulation.wordLabels.Sessions s s.onlyWordLabels := by
  have hprogram : s.scheduler.cpu.program.AgreeOnWords s.onlyWordLabels.scheduler.cpu.program :=
    ⟨rfl, fun name hname => (LabelTable.find?_onlyWords hname _).symm⟩
  exact ⟨⟨⟨hprogram, rfl, rfl⟩, rfl, rfl, rfl, rfl⟩, rfl, rfl, rfl⟩

/-- A label that a line declares is found at its last declaration. -/
theorem Program.exists_find?_of_declared {source name : String}
    (h : (declarations (parse source).lines name).Nonempty) :
    ∃ last, (parse source).labels.find? name = some last ∧
      IsGreatest (declarations (parse source).lines name) last := by
  have hcovers := Survey.covers_survey (parse source).lines
  cases hfound : (parse source).labels.find? name with
  | none => exact absurd ((hcovers.names name).mpr h) (LabelTable.find?_eq_none_iff.mp hfound)
  | some last => exact ⟨last, rfl, hcovers.find?_eq_some_iff.mp hfound⟩

/-- A jump to a declared label, or a call of it, goes to the last line that declares the label; a
call remembers the line after itself, and otherwise the machine stays as it is. The step from there
changes nothing and goes on at the next line. Operands are words, and so a session runs in the same
way when the labels that are no words are taken out of its table. -/
theorem label_jump_exact :
    (∀ (source : String) (index : Nat) (line command tag name : String) (others : List String),
      let p := Program.parse source
      p.size ≤ Hardware.indexLimit → p.lines[index]? = some line →
      Text.words line = command :: tag :: name :: others → Text.upper command = "JMP" →
      tag = "00" ∨ tag = "10" → (Program.declarations p.lines name).Nonempty →
      ∃ last, IsGreatest (Program.declarations p.lines name) last ∧ last < p.size ∧
        ∀ c : Cpu, c.program = p →
          let c' := (c.step index).state
          (c.step index).result = .ok (some last) ∧
          c'.machine = (if tag = "10" then c.machine.push (index + 1) else c.machine) ∧
          (c'.step last).result = .ok (some (last + 1)) ∧
          (c'.step last).state.machine = c'.machine) ∧
    (∀ text i, Instruction.decode text = .ok i → ∀ token ∈ i.operands, Text.IsWord token) ∧
    ∀ (s : Session) (ops : List Operation), (∀ op ∈ ops, op.ofScheduler = true) →
      List.Forall₂ Bisimulation.wordLabels.Turns (s.turns ops) (s.onlyWordLabels.turns ops) := by
  refine ⟨?_, fun text i => Instruction.isWord_of_decode, ?_⟩
  · intro source index line command tag name others p hsize hline hwords hcommand htag hdeclared
    obtain ⟨last, hfound, hlast⟩ := Program.exists_find?_of_declared hdeclared
    have hindex : index < p.size := (List.getElem?_eq_some_iff.mp hline).1
    have hlt : last < p.size := Program.below_declarations p.lines name last hlast.1
    -- The tag tells a call from a jump, and from here on only the operation matters.
    obtain ⟨op, hop, htargets, hpush⟩ : ∃ op, Op.ofTag? tag = some op ∧ (op = .jmp ∨ op = .call) ∧
        (op = .call ↔ tag = "10") := by
      obtain rfl | rfl := htag
      · exact ⟨.jmp, rfl, .inl rfl, by decide⟩
      · exact ⟨.call, rfl, .inr rfl, by decide⟩
    have hjump : Line.Jump line op name others :=
      ⟨Line.isLabel_of_jump hwords hcommand, htargets, command, tag, hwords, hcommand, hop⟩
    refine ⟨last, hlast, hlt, ?_⟩
    intro c hc c'
    have hprogram : c'.program = p := (c.step_program index).trans hc
    obtain ⟨hresult, hmachine⟩ := Cpu.step_of_labelJump (c := c) hjump (by rw [hc, hline])
      (by omega) (by rw [hc, hfound])
    have hthere : last ∈ Program.declarations c'.program.lines name := by
      rw [hprogram]
      exact hlast.1
    refine ⟨hresult, ?_, Cpu.step_of_declaration hthere (by omega)⟩
    simp only [c', hmachine, hpush]
  · intro s ops hops
    exact Bisimulation.turns_related s.wordLabels_onlyWordLabels hops

def numericLabel : String := ".0\nNOOP\njMp 10 0 twice\n.\n.a b\n.0"

/-- The call goes to the last line, although the label looks like the index of the first one, and
the table could do without two of its three entries. -/
theorem label_jump_exact_numericLabel :
    let c := Cpu.initial.load (.parse numericLabel)
    let s := (Session.onDisplay (.text numericLabel) (.fixed .default) (.blank false none)).session
    (c.step 2).result = .ok (some 5) ∧ (c.step 2).state.machine = c.machine.push 3 ∧
    ((c.step 2).state.step 5).result = .ok (some 6) ∧
    c.program.labels.entries = [("0", 5), ("", 3), ("a b", 4)] ∧
    c.program.labels.onlyWords.entries = [("0", 5)] ∧
    List.Forall₂ Bisimulation.wordLabels.Turns
      (s.start.session.turns [.executeNext, .tick (.int 1), .reset])
      (s.start.session.onlyWordLabels.turns [.executeNext, .tick (.int 1), .reset]) := by
  intro c s
  obtain ⟨hjump, -, hsession⟩ := label_jump_exact
  have hagain : 5 ∈ Program.declarations (Program.parse numericLabel).lines "0" :=
    ⟨".0", by decide +kernel, by decide +kernel⟩
  have hsize : (Program.parse numericLabel).size = 6 := by decide +kernel
  obtain ⟨last, hlast, hlt, hsteps⟩ :=
    hjump numericLabel 2 "jMp 10 0 twice" "jMp" "10" "0" ["twice"]
      (by decide +kernel) (by decide +kernel) (by decide +kernel) (by decide +kernel) (.inr rfl)
      ⟨5, hagain⟩
  obtain rfl : last = 5 := by
    have hle := hlast.2 hagain
    omega
  obtain ⟨hresult, hmachine, hnext, -⟩ := hsteps c rfl
  exact ⟨hresult, hmachine, hnext, by decide +kernel, by decide +kernel,
    hsession s.start.session [.executeNext, .tick (.int 1), .reset] (by decide)⟩

end TickMachine
