import TickMachine.Proofs.LabelJump
import TickMachine.Proofs.RunState
import TickMachine.Proofs.Spacing
import TickMachine.Proofs.Termination

namespace TickMachine

/-- A label and the lines between it and the jump back to it. None of these lines jumps, calls,
returns or halts, and none declares the label again; they may be blank, declare other labels, and be
refused. -/
structure ClosedLoop where
  label : String
  body : List String
  label_isWord : Text.IsWord label
  oneLine : ∀ line ∈ body, '\n' ∉ line.toList
  stays : ∀ line ∈ body, ∀ i ∈ (Instruction.decode (Text.trim line)).toOption,
    i.op ∉ [.noop, .jmp, .call, .ret]
  undeclared : ∀ line ∈ body, Line.label? line ≠ some label

namespace ClosedLoop

variable (loop : ClosedLoop)

def lines : List String := ("." ++ loop.label) :: (loop.body ++ ["JMP 00 " ++ loop.label])

def source : String := "\n".intercalate loop.lines

def program : Program := .parse loop.source

/-- No operand of the body begins with more digits than are read. -/
def Short : Prop :=
  ∀ line ∈ loop.body, ∀ i ∈ (Instruction.decode (Text.trim line)).toOption,
    ∀ token ∈ i.operands, (Literal.digitRun token).length ≤ Literal.maxDigits

instance : Decidable loop.Short := by
  unfold Short
  infer_instance

theorem length_lines : loop.lines.length = loop.body.length + 2 := by simp [lines]

theorem newline_not_mem_label : '\n' ∉ loop.label.toList := by
  intro hmem
  have hblank := loop.label_isWord.no_blank '\n' hmem
  revert hblank
  decide

theorem lines_program : loop.program.lines = loop.lines := by
  have hlabel := loop.newline_not_mem_label
  have hne : loop.lines ≠ [] := List.cons_ne_nil _ _
  apply Text.lines_intercalate hne
  rw [lines, List.forall_mem_cons, List.forall_mem_append, List.forall_mem_singleton]
  refine ⟨?_, loop.oneLine, ?_⟩
  · simpa [String.toList_append] using hlabel
  · simpa [String.toList_append] using hlabel

theorem size_program : loop.program.size = loop.lines.length :=
  congrArg List.length loop.lines_program

theorem jump_last : Line.Jump ("JMP 00 " ++ loop.label) .jmp loop.label [] := by
  let spacing : Text.Spacing :=
    { lead := "", first := "JMP", trail := ""
      others := [⟨" ", "00", by decide, by decide, by decide⟩,
        ⟨" ", loop.label, by decide, by decide, loop.label_isWord⟩]
      lead_blank := by decide, first_isWord := by decide, trail_blank := by decide }
  have htext : spacing.text = "JMP 00 " ++ loop.label := by
    rw [← String.toList_inj, Text.Spacing.toList_text]
    simp [spacing, Text.laid, Text.Spaced.text]
  have hwords : Text.words ("JMP 00 " ++ loop.label) = ["JMP", "00", loop.label] := by
    rw [← htext]
    exact spacing.words_text
  exact ⟨Line.isLabel_of_jump hwords (by decide +kernel), .inl rfl, "JMP", "00", hwords,
    by decide +kernel, rfl⟩

theorem declared_first : 0 ∈ Program.declarations loop.program.lines loop.label := by
  rw [lines_program]
  have hword : Text.IsWord ("." ++ loop.label) := by
    refine ⟨by simp, ?_⟩
    rw [String.toList_append, List.all_append, loop.label_isWord.2]
    rfl
  exact ⟨"." ++ loop.label, rfl, hword.trim_eq⟩

theorem find?_label : loop.program.labels.find? loop.label = some 0 := by
  have hdeclared : (Program.declarations (Program.parse loop.source).lines loop.label).Nonempty :=
    ⟨0, loop.declared_first⟩
  obtain ⟨last, hfound, ⟨line, hline, htrim⟩, -⟩ := Program.exists_find?_of_declared hdeclared
  cases last with
  | zero => exact hfound
  | succ k =>
    have hlabel := Line.label?_eq_some_iff.mpr htrim
    have hmem : line ∈ loop.body ++ ["JMP 00 " ++ loop.label] := by
      change loop.program.lines[k + 1]? = some line at hline
      rw [lines_program, lines, List.getElem?_cons_succ] at hline
      exact List.mem_of_getElem? hline
    obtain hbody | hjump := List.mem_append.mp hmem
    · exact absurd hlabel (loop.undeclared line hbody)
    · obtain rfl := List.mem_singleton.mp hjump
      rw [Line.label?, loop.jump_last.statement] at hlabel
      cases hlabel

theorem place_lt (k : Nat) : k % loop.lines.length < loop.lines.length := by
  apply Nat.mod_lt
  rw [length_lines]
  omega

theorem place_cases {place : Nat} (h : place < loop.lines.length) :
    place = 0 ∨
    (∃ line ∈ loop.body, loop.program.lines[place]? = some line ∧
      (place + 1) % loop.lines.length = place + 1) ∨
    (loop.program.lines[place]? = some ("JMP 00 " ++ loop.label) ∧
      (place + 1) % loop.lines.length = 0) := by
  rw [length_lines] at h ⊢
  rw [lines_program, lines]
  cases place with
  | zero => exact .inl rfl
  | succ k =>
    rw [List.getElem?_cons_succ]
    by_cases hbody : k < loop.body.length
    · refine .inr (.inl ⟨loop.body[k], List.getElem_mem hbody, ?_, Nat.mod_eq_of_lt (by omega)⟩)
      rw [List.getElem?_append_left hbody, List.getElem?_eq_getElem hbody]
    · obtain rfl : k = loop.body.length := by omega
      exact .inr (.inr ⟨List.getElem?_concat_length .., Nat.mod_self _⟩)

end ClosedLoop

theorem Program.mem_decode_of_instructionAt? {p : Program} {index : Nat} {line : String}
    {i : Instruction} (hline : p.lines[index]? = some line)
    (hi : p.instructionAt? index = some i) :
    i ∈ (Instruction.decode (Text.trim line)).toOption := by
  obtain ⟨line', hl, -, hd⟩ := instructionAt?_eq_some_iff.mp hi
  have hwide : index < Hardware.indexLimit := by
    by_contra hnot
    rw [lineAt_of_wide (by omega)] at hl
    cases hl
  cases (lineAt_of_getElem? hline hwide).symm.trans hl
  rw [hd]
  rfl

namespace Cpu

variable {c : Cpu} {loop : ClosedLoop} {place : Nat} (hp : c.program = loop.program)
include hp

theorem step_at_label :
    (c.step 0).result = .ok (some 1) ∧ (c.step 0).state.machine = c.machine := by
  have hmem : 0 ∈ Program.declarations c.program.lines loop.label := by
    rw [hp]
    exact loop.declared_first
  exact step_of_declaration hmem (by decide)

theorem step_at_jump (hwide : place < Hardware.indexLimit)
    (hline : loop.program.lines[place]? = some ("JMP 00 " ++ loop.label)) :
    (c.step place).result = .ok (some 0) ∧ (c.step place).state.machine = c.machine := by
  rw [← hp] at hline
  exact step_of_labelJump loop.jump_last hline hwide (by rw [hp]; exact loop.find?_label)

/-- A line of the body that does not fail leads to the next one, with or without an effect. -/
theorem step_in_body {line : String} (hmem : line ∈ loop.body)
    (hline : loop.program.lines[place]? = some line)
    (hfine : ∀ e, (c.step place).result ≠ .error e) :
    (c.step place).result = .ok (some (place + 1)) ∧
      (c.step place).state.machine.stack = c.machine.stack := by
  rw [← hp] at hline
  have hstays : ∀ i, c.program.instructionAt? place = some i →
      i.op ≠ .noop ∧ i.op ≠ .jmp ∧ i.op ≠ .call ∧ i.op ≠ .ret := by
    intro i hi
    simpa using loop.stays line hmem i (Program.mem_decode_of_instructionAt? hline hi)
  obtain ⟨hs, hnext⟩ | ⟨i, e, hi, he, hs, hr⟩ := c.step_inversion place
  · refine ⟨?_, by rw [hs]; rfl⟩
    match hresult : (c.step place).result with
    | .error e => exact absurd hresult (hfine e)
    | .ok none =>
      -- Only two operations halt, and the body has neither.
      obtain ⟨i, hi, hop⟩ := step_eq_none_iff.mp hresult
      obtain ⟨hnoop, -, -, hret⟩ := hstays i hi
      exact absurd hop (by simp [hnoop, hret])
    | .ok (some next) => rw [hnext next hresult]
  · obtain ⟨-, hjmp, hcall, hret⟩ := hstays i hi
    have hcause := Instruction.causes_of_effect he
    rw [hs, hr]
    cases e with
    | setRegister cell value => exact ⟨rfl, rfl⟩
    | setMemory cell value => exact ⟨rfl, rfl⟩
    | jump target => exact absurd hcause.1 hjmp
    | call target => exact absurd hcause.1 hcall
    | ret target => exact absurd hcause.1 hret

/-- One step along the loop. Whether a line fails may hang on how long the loop is: no line can be
fetched at an index that does not fit into 64 bits. -/
theorem step_closedLoop (hplace : place < loop.lines.length)
    (hfine : ∀ e, (c.step place).result ≠ .error e) :
    (c.step place).result = .ok (some ((place + 1) % loop.lines.length : Nat)) ∧
      (c.step place).state.machine.stack = c.machine.stack := by
  obtain rfl | ⟨line, hmem, hline, hnext⟩ | ⟨hline, hnext⟩ := loop.place_cases hplace
  · obtain ⟨hresult, hmachine⟩ := step_at_label hp
    have hone : (0 + 1) % loop.lines.length = 1 := by
      rw [loop.length_lines]
      exact Nat.mod_eq_of_lt (by omega)
    rw [hone]
    exact ⟨hresult, congrArg Machine.stack hmachine⟩
  · rw [hnext]
    exact step_in_body hp hmem hline hfine
  · have hwide : place < Hardware.indexLimit := by
      by_contra hnot
      have hl : c.program.lineAt place = .error .tooWide := Program.lineAt_of_wide (by omega)
      exact hfine (.fetch .tooWide) (by rw [step_of_fetch_error hl])
    obtain ⟨hresult, hmachine⟩ := step_at_jump hp hwide hline
    rw [hnext]
    exact ⟨hresult, congrArg Machine.stack hmachine⟩

theorem step_ok_of_closedLoop (hshort : loop.Short)
    (hsize : loop.lines.length ≤ Hardware.indexLimit) (hplace : place < loop.lines.length)
    (e : Failure) : (c.step place).result ≠ .error e := by
  have hwide : place < Hardware.indexLimit := by omega
  obtain rfl | ⟨line, hmem, hline, -⟩ | ⟨hline, -⟩ := loop.place_cases hplace
  · intro h
    cases (step_at_label hp).1.symm.trans h
  · have hin : c.inProgram place = true := by
      rw [inProgram, hp, loop.size_program]
      simpa using hplace
    apply step_ok_of_short hin (by omega)
    intro i hi
    exact hshort line hmem i (Program.mem_decode_of_instructionAt? hline (hp ▸ hi))
  · intro h
    cases (step_at_jump hp hwide hline).1.symm.trans h

end Cpu

namespace Scheduler

variable {s : Scheduler} {loop : ClosedLoop} {stack : CallStack} {k : Nat}

/-- The run has used so many slots since it entered the loop. -/
structure Circles (s : Scheduler) (loop : ClosedLoop) (stack : CallStack) (k : Nat) : Prop where
  program : s.program = loop.program
  runState : s.runState = .running
  pc : s.pc = (k % loop.lines.length : Nat)
  stack : s.machine.stack = stack

theorem Circles.inProgram (h : s.Circles loop stack k) : s.cpu.inProgram s.pc = true := by
  have hsize : s.cpu.program.size = loop.lines.length :=
    (congrArg Program.size h.program).trans loop.size_program
  rw [Cpu.inProgram, h.pc, hsize]
  exact decide_eq_true ⟨Int.natCast_nonneg _, Int.ofNat_lt.mpr (loop.place_lt k)⟩

theorem Circles.congr {t : Scheduler} (h : s.Circles loop stack k) (hcpu : t.cpu = s.cpu)
    (hpc : t.pc = s.pc) (hrun : t.runState = s.runState) : t.Circles loop stack k :=
  ⟨(congrArg Cpu.program hcpu).trans h.program, hrun.trans h.runState, hpc.trans h.pc,
    (congrArg (fun c => c.machine.stack) hcpu).trans h.stack⟩

/-- A slot that fails leaves the run where it is, and any other takes it one line further. -/
theorem circles_executeNext (h : s.Circles loop stack k) :
    (∃ e, s.executeNext.result = .error e) ∧ s.executeNext.state.Circles loop stack k ∨
      s.executeNext.result = .ok () ∧ s.executeNext.state.Circles loop stack (k + 1) := by
  have hloop := Cpu.step_closedLoop h.program (loop.place_lt k)
  rw [← h.pc, Nat.mod_add_mod] at hloop
  have hprogram := s.program_of_executeNext.trans h.program
  obtain ⟨hout, -⟩ | ⟨hlost, -⟩ |
      ⟨-, signals, ⟨e, -, hr⟩ | ⟨hstep, -⟩ | ⟨cpu, next, hstep, hr⟩⟩ :=
    s.executeNext_cases
  · rw [h.inProgram] at hout
    cases hout
  · exact absurd hlost (not_lost_of_inProgram h.inProgram)
  · rw [hr] at hprogram ⊢
    exact .inl ⟨⟨e, rfl⟩, hprogram, h.runState, h.pc, h.stack⟩
  · rw [hstep] at hloop
    cases (hloop nofun).1
  · rw [hstep] at hloop
    obtain ⟨hnext, hstack⟩ := hloop nofun
    cases hnext
    rw [hr] at hprogram ⊢
    exact .inr ⟨rfl, hprogram, h.runState, rfl, hstack.trans h.stack⟩

theorem circles_tick (h : s.Circles loop stack k) (elapsed : Number) :
    (s.tick elapsed).state.Circles loop stack
      (k + if (s.tick elapsed).result = .ok true then 1 else 0) := by
  obtain ⟨_, ht⟩ | ⟨_, _, ht⟩ | ⟨_, seconds, _, ⟨_, ht⟩ | ⟨_, ht⟩⟩ := s.tick_cases elapsed
  · rw [ht]
    exact h
  · rw [ht]
    exact h
  · rw [ht]
    exact h.congr rfl rfl rfl
  · have hlater : (s.addTime seconds).Circles loop stack k := h.congr rfl rfl rfl
    obtain ⟨hresult, hcpu, hpc, hrun⟩ := restartTimer_keeps (s.addTime seconds).executeNext
    rw [ht, hresult]
    obtain ⟨⟨e, he⟩, hslot⟩ | ⟨hok, hslot⟩ := circles_executeNext hlater
    · rw [he]
      exact hslot.congr hcpu hpc hrun
    · rw [hok]
      exact hslot.congr hcpu hpc hrun

theorem executeNext_ok_of_circles (hshort : loop.Short)
    (hsize : loop.lines.length ≤ Hardware.indexLimit) (h : s.Circles loop stack k) (e : Failure) :
    s.executeNext.result ≠ .error e := by
  intro he
  have hstep := ((executeNext_eq_error_iff (not_lost_of_inProgram h.inProgram)).mp he).2
  rw [h.pc] at hstep
  exact Cpu.step_ok_of_closedLoop h.program hshort hsize (loop.place_lt k) e hstep

end Scheduler

namespace Session

variable {s : Session} {loop : ClosedLoop} {stack : CallStack} {k : Nat}

/-- How many ticks of a row use their slots; the others fail or come too early. -/
def slotsUsed (s : Session) : List Number → Nat
  | [] => 0
  | elapsed :: rest =>
    (if (s.tick elapsed).result = .ok true then 1 else 0) +
      (s.tick elapsed).session.slotsUsed rest

theorem circles_ticks (h : s.scheduler.Circles loop stack k) (times : List Number) :
    (s.performAll (times.map .tick)).scheduler.Circles loop stack (k + s.slotsUsed times) := by
  induction times generalizing s k with
  | nil => exact h
  | cons elapsed rest ih =>
    have hfirst : (s.tick elapsed).session.scheduler.Circles loop stack
        (k + if (s.tick elapsed).result = .ok true then 1 else 0) :=
      Scheduler.circles_tick h elapsed
    rw [slotsUsed, ← Nat.add_assoc]
    exact ih hfirst

theorem slotsUsed_forever (hshort : loop.Short)
    (hsize : loop.lines.length ≤ Hardware.indexLimit) (h : s.scheduler.Circles loop stack k)
    (n : Nat) : s.slotsUsed (List.replicate n (.real forever)) = n := by
  induction n generalizing s k with
  | zero => rfl
  | succ n ih =>
    have hused : (s.tick (.real forever)).result = .ok true :=
      Scheduler.tick_forever (decide_eq_true h.runState)
        (Scheduler.executeNext_ok_of_circles hshort hsize h)
    have hnext := Scheduler.circles_tick h (.real forever)
    rw [List.replicate_succ, slotsUsed, if_pos hused, ih hnext, Nat.add_comm]

theorem circles_of_start (hsource : s.source.read = .ok loop.source)
    (hstart : s.start.result = .ok ()) :
    s.start.session.scheduler.Circles loop s.scheduler.machine.stack 0 := by
  obtain ⟨text, seconds, htext, -, hstate⟩ := Scheduler.start_eq_ok hstart
  obtain rfl := Except.ok.inj (hsource.symm.trans htext)
  unfold start absorb
  rw [hstate]
  exact ⟨rfl, rfl, rfl, rfl⟩

end Session

/-- A started loop never halts: whatever the ticks are, and whether or not some of them fail, the
run goes on, it stands at the line that the number of used slots leads to, and it is on the stack
that it was started with. If no operand of the body begins with too many digits, no tick fails, and
a row of long waits uses as many slots as it has ticks. -/
theorem closed_loop_cycles (loop : ClosedLoop) (s : Session)
    (hsource : s.source.read = .ok loop.source) (hstart : s.start.result = .ok ()) :
    let n := loop.lines.length
    let started := s.start.session
    (∀ times : List Number,
      let t := started.performAll (times.map .tick)
      t.scheduler.program.lines = loop.lines ∧ t.runState = .running ∧
        t.scheduler.pc = (started.slotsUsed times % n : Nat) ∧
        t.scheduler.machine.stack = s.scheduler.machine.stack) ∧
    (loop.Short → n ≤ Hardware.indexLimit →
      (∀ times, (∀ elapsed ∈ times, elapsed.toFloat?.isSome = true) →
        ∃ t used, started.tickAll times = .ok (t, used)) ∧
      ∀ k, started.slotsUsed (List.replicate k (.real forever)) = k) := by
  intro n started
  have hbegin := Session.circles_of_start hsource hstart
  refine ⟨?_, ?_⟩
  · intro times t
    have hend := Session.circles_ticks hbegin times
    rw [Nat.zero_add] at hend
    exact ⟨(congrArg Program.lines hend.program).trans loop.lines_program, hend.runState, hend.pc,
      hend.stack⟩
  · intro hshort hsize
    refine ⟨?_, Session.slotsUsed_forever hshort hsize hbegin⟩
    intro times htimes
    -- Ticks keep the run on the loop, where no slot fails.
    refine Session.exists_tickAll_of_kept
      (P := fun s' => ∃ k, s'.Circles loop s.scheduler.machine.stack k) ?_ ?_ ⟨0, hbegin⟩ htimes
    · rintro s' ⟨k, hk⟩
      exact Scheduler.executeNext_ok_of_circles hshort hsize hk
    · rintro s' elapsed ⟨k, hk⟩
      exact ⟨_, Scheduler.circles_tick hk elapsed⟩

/-- The label looks like the index of another line; the body has a blank line, another label, lines
that cannot be decoded and lines that are refused. -/
def ClosedLoop.numbered : ClosedLoop where
  label := "3"
  body := ["", "  .33", "imm 0 7", "CALL 2", "ADD 0 0", "RSTR 0 -1"]
  label_isWord := by decide
  oneLine := by decide
  stays := by decide +kernel
  undeclared := by decide +kernel

def Session.circling : Session :=
  ((fresh ClosedLoop.numbered.source (.int 2)).perform (.push 5)).session

theorem closed_loop_cycles_circling :
    let started := Session.circling.start.session
    let times := List.replicate 29 (.real forever)
    let t := started.performAll (times.map .tick)
    started.slotsUsed times = 29 ∧ t.runState = .running ∧ t.scheduler.pc = 5 ∧
      t.scheduler.machine.stack.frames = [5] := by
  obtain ⟨hcycles, hfine⟩ := closed_loop_cycles ClosedLoop.numbered Session.circling rfl
    (by decide +kernel)
  obtain ⟨-, hused⟩ := hfine (by decide +kernel) (by decide +kernel)
  obtain ⟨-, hrun, hpc, hstack⟩ := hcycles (List.replicate 29 (.real forever))
  have hfive : 29 % ClosedLoop.numbered.lines.length = 5 := by decide
  rw [hused 29, hfive] at hpc
  exact ⟨hused 29, hrun, hpc, congrArg CallStack.frames hstack⟩

end TickMachine
