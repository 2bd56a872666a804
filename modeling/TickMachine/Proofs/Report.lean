import TickMachine.Proofs.LoadLine
import TickMachine.Proofs.Refusal

namespace TickMachine

namespace Instruction

variable {i : Instruction} {p : Program} {m : Machine}

/-- Where an instruction at an index leads when nothing is wrong with it. -/
inductive LeadsTo (i : Instruction) (p : Program) (m : Machine) (index : Int) : Int → Prop where
  | label {token : String} {line : Nat} (hop : i.op = .jmp ∨ i.op = .call)
      (htoken : i.operands[0]? = some token) (hfound : p.labels.find? token = some line) :
      LeadsTo i p m index line
  | number {token : String} {v : Int} (hop : i.op = .jmp ∨ i.op = .call)
      (htoken : i.operands[0]? = some token) (hnone : p.labels.find? token = none)
      (hspells : Literal.Spells token v) : LeadsTo i p m index v
  | back {frame : Int} (hop : i.op = .ret) (htop : m.stack.top? = some frame) :
      LeadsTo i p m index frame
  | on (hop : i.op ∉ [.noop, .jmp, .call, .ret]) : LeadsTo i p m index (index + 1)

theorem leadsTo_of_target {target index : Int}
    (hwords : ∀ token ∈ i.operands, Text.IsWord token) (hop : i.op = .jmp ∨ i.op = .call)
    (h : i.target p 0 = .ok target) : i.LeadsTo p m index target := by
  obtain ⟨token, htoken, hresolve⟩ := Except.bind_eq_ok h
  have hget : i.operands[0]? = some token := getElem?_of_operand htoken
  unfold Program.resolve at hresolve
  cases hfound : p.labels.find? token with
  | some line =>
    simp only [hfound] at hresolve
    cases hresolve
    exact .label hop hget hfound
  | none =>
    simp only [hfound] at hresolve
    split at hresolve
    · rename_i v hread
      cases hresolve
      have hword := hwords token (List.mem_of_getElem? hget)
      exact .number hop hget hfound (Literal.spells_of_read hword hread)
    · cases hresolve
    · cases hresolve

theorem leadsTo_of_effect {e : Effect} (hwords : ∀ token ∈ i.operands, Text.IsWord token)
    (h : i.effect p m = .ok e) (index : Int) :
    i.LeadsTo p m index (e.target?.getD (index + 1)) := by
  have hcause := causes_of_effect h
  cases e with
  | setRegister place value =>
    refine .on fun hmem => hcause ?_
    simp only [List.mem_cons, List.not_mem_nil, or_false] at hmem ⊢
    tauto
  | setMemory place value =>
    have hop : i.op = .rstr := hcause
    exact .on (by simp [hop])
  | jump target => exact leadsTo_of_target hwords (.inl hcause.1) hcause.2
  | call target => exact leadsTo_of_target hwords (.inr hcause.1) hcause.2
  | ret target => exact .back hcause.1 hcause.2

end Instruction

namespace Cpu

variable {c : Cpu} {index : Int} {text : String} {i : Instruction}

/-- What a step shows on the display, and what it gives. -/
structure Reports (c : Cpu) (index : Int) (messages : List String)
    (result : Except Failure (Option Int)) : Prop where
  messages : (c.step index).signals.filterMap Signal.event? = messages
  result : (c.step index).result = result

/-- The same of a step that leaves the machine as it is. -/
structure ReportsOnly (c : Cpu) (index : Int) (messages : List String)
    (result : Except Failure (Option Int)) : Prop extends c.Reports index messages result where
  state : (c.step index).state = c.moveTo index

def announcement (text : String) (index : Int) : String :=
  "Decoding: " ++ text ++ " at index " ++ toString index

theorem messages_conclude (r : Reply Cpu Trap (Option Int))
    (hquiet : r.signals.filterMap Signal.event? = []) :
    (conclude index text r).signals.filterMap Signal.event? =
      announcement text index :: (remark r.result).filterMap Signal.event? := by
  have hdump : [r.state.dump].filterMap Signal.event? = [] := rfl
  simp only [conclude, List.cons_append, List.filterMap_append, hquiet, hdump, List.append_nil,
    List.filterMap_cons]
  rfl

theorem reportsOnly_of_trap {t : Trap} (hi : c.program.instructionAt? index = some i)
    (ht : i.effect c.program c.machine = .error t) :
    c.ReportsOnly index
      (announcement i.text index :: (remark (.error t)).filterMap Signal.event?)
      (next index (.error t)) := by
  have hs := step_of_instruction hi
  simp only [worked, ht, Effect.commit] at hs
  refine ⟨⟨?_, by rw [hs]; rfl⟩, by rw [hs]; rfl⟩
  rw [hs]
  exact messages_conclude _ rfl

theorem reports_of_effect {e : Effect} (hi : c.program.instructionAt? index = some i)
    (he : i.effect c.program c.machine = .ok e) :
    c.Reports index [announcement i.text index] (.ok (some (e.target?.getD (index + 1)))) := by
  have hs := step_of_instruction hi
  simp only [worked, he, Effect.commit] at hs
  refine ⟨?_, by rw [hs]; rfl⟩
  rw [hs]
  exact messages_conclude _ rfl

section Line

variable {line : String} (hl : c.program.lineAt index = .ok line)
include hl

theorem reportsOnly_of_blank (hb : Text.trim line = "") :
    c.ReportsOnly index [] (.ok (some (index + 1))) := by
  have hs := step_of_blank hl hb
  exact ⟨⟨by rw [hs]; rfl, by rw [hs]⟩, by rw [hs]⟩

theorem reportsOnly_of_label (hb : Text.trim line ≠ "")
    (hm : Line.isLabel (Text.trim line) = true) :
    c.ReportsOnly index [announcement (Text.trim line) index] (.ok (some (index + 1))) := by
  have hs := step_of_label hl hb hm
  exact ⟨⟨by rw [hs]; rfl, by rw [hs]⟩, by rw [hs]⟩

theorem reportsOnly_of_undecodable {f : Fault} (hb : Text.trim line ≠ "")
    (hm : Line.isLabel (Text.trim line) = false)
    (hd : Instruction.decode (Text.trim line) = .error f) :
    c.ReportsOnly index [announcement (Text.trim line) index, "Error: " ++ f.message]
      (.ok (some (index + 1))) := by
  have hs := step_of_undecodable hl hb hm hd
  refine ⟨⟨?_, by rw [hs]; rfl⟩, by rw [hs]; rfl⟩
  rw [hs]
  exact messages_conclude _ rfl

end Line

/-- The ways in which a step on a statement that can be decoded ends. -/
structure Executes (c : Cpu) (index : Int) (i : Instruction) : Prop where
  fault : ∀ k f, i.FailsAt c.program c.machine k (.fault f) →
    c.ReportsOnly index [announcement i.text index, "Error: " ++ f.message]
      (.ok (some (index + 1))) ∧
    ∃ r, i.op.roles[k]? = some r ∧ f.kind =
      if r = .target ∧ k < i.operands.length then .unresolvedTarget else .invalidOperand
  oversized : ∀ k digits, i.FailsAt c.program c.machine k (.oversizedLiteral digits) →
    c.ReportsOnly index [announcement i.text index] (.error (.trap (.oversizedLiteral digits)))
  halt : i.op = .noop →
    c.ReportsOnly index [announcement i.text index, "Program finished because of NOOP."] (.ok none)
  emptyCallStack : i.op = .ret → c.machine.stack.frames = [] →
    c.ReportsOnly index
      [announcement i.text index, "Error: Call stack is empty, cannot return."] (.ok none)
  completes : (∀ k t, ¬ i.FailsAt c.program c.machine k t) → i.op ≠ .noop →
    (i.op = .ret → c.machine.stack.frames ≠ []) →
    ∃ next, i.LeadsTo c.program c.machine index next ∧
      c.Reports index [announcement i.text index] (.ok (some next))

theorem executes_of_instruction (hi : c.program.instructionAt? index = some i)
    (hwords : ∀ token ∈ i.operands, Text.IsWord token) : c.Executes index i where
  fault k f h := by
    obtain ⟨r, hr, hrefuses, -⟩ := id h
    exact ⟨reportsOnly_of_trap hi (Instruction.effect_of_failsAt hwords h), r, hr,
      Instruction.kind_of_refuses hrefuses⟩
  oversized k digits h := reportsOnly_of_trap hi (Instruction.effect_of_failsAt hwords h)
  halt hop := by
    have he : i.effect c.program c.machine = .error .halt := by simp only [Instruction.effect, hop]
    exact reportsOnly_of_trap hi he
  emptyCallStack hop hframes := by
    have he : i.effect c.program c.machine = .error .emptyCallStack := by
      simp only [Instruction.effect, hop, CallStack.top?, hframes]
      rfl
    exact reportsOnly_of_trap hi he
  completes hfine hnoop hret := by
    cases he : i.effect c.program c.machine with
    | ok e => exact ⟨_, Instruction.leadsTo_of_effect hwords he index, reports_of_effect hi he⟩
    | error t =>
      -- Only a return could still trap, and it has a frame to go back to.
      by_cases hop : i.op = .ret
      · obtain ⟨frame, rest, hcons⟩ := List.exists_cons_of_ne_nil (hret hop)
        simp only [Instruction.effect, hop, CallStack.top?, hcons] at he
        cases he
      · obtain ⟨k, hk⟩ := (Instruction.effect_eq_error_iff hwords hnoop hop).mp he
        exact absurd hk (hfine k t)

theorem Executes.error_iff (h : c.Executes index i) {e : Failure} :
    (c.step index).result = .error e ↔
      ∃ k digits, i.FailsAt c.program c.machine k (.oversizedLiteral digits) ∧
        e = .trap (.oversizedLiteral digits) := by
  constructor
  · intro he
    have hends {messages : List String} {next : Option Int}
        (hreports : c.Reports index messages (.ok next)) : False := by
      have hresult := hreports.result
      rw [he] at hresult
      cases hresult
    by_contra hnone
    have hfine : ∀ k t, ¬ i.FailsAt c.program c.machine k t := by
      intro k t hk
      cases t with
      | fault f => exact hends (h.fault k f hk).1.toReports
      | oversizedLiteral digits =>
        have hresult := (h.oversized k digits hk).result
        rw [he] at hresult
        cases hresult
        exact hnone ⟨k, digits, hk, rfl⟩
      | emptyCallStack | halt | unwritable =>
        -- The other traps are not about the spelling of an operand.
        obtain ⟨r, -, _ | ⟨-, hrefuses⟩, -⟩ := hk
        cases hrefuses
    by_cases hnoop : i.op = .noop
    · exact hends (h.halt hnoop).toReports
    by_cases hend : i.op = .ret ∧ c.machine.stack.frames = []
    · exact hends (h.emptyCallStack hend.1 hend.2).toReports
    · obtain ⟨next, -, hreports⟩ := h.completes hfine hnoop fun hop hframes => hend ⟨hop, hframes⟩
      exact hends hreports
  · rintro ⟨k, digits, hk, rfl⟩
    exact (h.oversized k digits hk).result

end Cpu

/-- What a step inside the program says and gives, line by line. A blank line is passed over in
silence and a label after it has been announced; a statement that cannot be decoded is announced and
reported. In a statement that can be decoded, the first operand that is refused decides: a fault is
reported and the run goes on at the next line, a row with too many digits makes the step fail
without another word. Nothing else makes a step fail. -/
theorem step_outcome_exact (c : Cpu) (index : Nat) (line : String)
    (hline : c.program.lines[index]? = some line) (hwide : index < Hardware.indexLimit) :
    let text := Text.trim line
    (text = "" → c.ReportsOnly index [] (.ok (some (index + 1)))) ∧
    (text ≠ "" → Line.isLabel text = true →
      c.ReportsOnly index [Cpu.announcement text index] (.ok (some (index + 1)))) ∧
    (text ≠ "" → Line.isLabel text = false →
      (∀ f, Instruction.decode text = .error f →
        c.ReportsOnly index [Cpu.announcement text index, "Error: " ++ f.message]
          (.ok (some (index + 1)))) ∧
      ∀ i, Instruction.decode text = .ok i → i.text = text ∧ c.Executes index i) ∧
    ∀ e, (c.step index).result = .error e ↔
      Line.isLabel text = false ∧ ∃ i k digits, Instruction.decode text = .ok i ∧
        i.FailsAt c.program c.machine k (.oversizedLiteral digits) ∧
        e = .trap (.oversizedLiteral digits) := by
  intro text
  have hl : c.program.lineAt index = .ok line := Program.lineAt_of_getElem? hline hwide
  have hexecutes (hm : Line.isLabel text = false) {i : Instruction}
      (hd : Instruction.decode text = .ok i) : c.Executes index i :=
    Cpu.executes_of_instruction (Program.instructionAt?_eq_some_iff.mpr ⟨line, hl, hm, hd⟩)
      (Instruction.isWord_of_decode hd)
  refine ⟨Cpu.reportsOnly_of_blank hl, Cpu.reportsOnly_of_label hl, ?_, ?_⟩
  · intro hb hm
    refine ⟨fun f => Cpu.reportsOnly_of_undecodable hl hb hm, ?_⟩
    intro i hd
    exact ⟨(Instruction.decode_spec hd).1, hexecutes hm hd⟩
  · intro e
    cases hi : c.program.instructionAt? index with
    | none =>
      -- Such a line is passed over, and spells nothing that could fail.
      rw [(Cpu.step_of_no_instruction hl hi).2]
      constructor
      · intro h
        cases h
      · rintro ⟨hm, i, -, -, hd, -⟩
        rw [Program.instructionAt?_eq_some_iff.mpr ⟨line, hl, hm, hd⟩] at hi
        cases hi
    | some i =>
      obtain ⟨line', hl', hm, hd⟩ := Program.instructionAt?_eq_some_iff.mp hi
      obtain rfl : line = line' := Except.ok.inj (hl.symm.trans hl')
      rw [(hexecutes hm hd).error_iff]
      constructor
      · rintro ⟨k, digits, hk, rfl⟩
        exact ⟨hm, i, k, digits, hd, hk, rfl⟩
      · rintro ⟨-, j, k, digits, hj, hk, rfl⟩
        obtain rfl : i = j := Except.ok.inj (hd.symm.trans hj)
        exact ⟨k, digits, hk, rfl⟩

theorem Instruction.failsAt_loadLine {w : List Char} {p : Program} {m : Machine} (hne : w ≠ [])
    (h : ∀ c ∈ w, Text.isBlank c = false) (hm : 0 < m.registers.size)
    (hlong : Literal.maxDigits < (Literal.digitRun (.ofList w)).length) :
    FailsAt ⟨.imm, ["0", .ofList w], loadLine w⟩ p m 1
      (.oversizedLiteral (Literal.digitRun (.ofList w)).length) := by
  refine ⟨.number, rfl, .token rfl (.oversized (fun hr => nomatch hr) hlong), ?_⟩
  intro j hj q hq
  obtain rfl : j = 0 := Nat.lt_one_iff.mp hj
  cases hq
  refine (look_eq_ok_iff (isWord_of_decode (decode_loadLine hne h))).mp ?_
  change Except.forget (m.registers.locate "0") = .ok ()
  rw [Bank.locate_zero hm]
  rfl

def Cpu.outOfRegisters : Cpu := initial.load (.parse "ADD 9 x")

def Cpu.onLongWord : Cpu := initial.load (.parse (loadLine longWord))

theorem step_outcome_exact_outOfRegisters_onLongWord :
    Cpu.outOfRegisters.ReportsOnly 0
      [Cpu.announcement "ADD 9 x" 0, "Error: Invalid register index 9"] (.ok (some 1)) ∧
    ¬ Literal.IsNumeral (.ofList longWord) ∧
    Cpu.onLongWord.ReportsOnly 0 [Cpu.announcement (loadLine longWord) 0]
      (.error (.trap (.oversizedLiteral (Literal.maxDigits + 1)))) := by
  refine ⟨?_, not_isNumeral_longWord, ?_⟩
  · have htrim : Text.trim "ADD 9 x" = "ADD 9 x" := by decide +kernel
    have hd : Instruction.decode "ADD 9 x" = .ok ⟨.add, ["9", "x"], "ADD 9 x"⟩ := by
      decide +kernel
    have hvalue : Literal.numeralValue "9" = 9 := by decide +kernel
    have hfails : Instruction.FailsAt ⟨.add, ["9", "x"], "ADD 9 x"⟩ Cpu.outOfRegisters.program
        Cpu.outOfRegisters.machine 0 (.fault (.outOfBank .registers 9)) := by
      rw [← hvalue]
      refine ⟨.register, rfl, .token rfl (.outside (b := Machine.initial.registers) rfl ?_ ?_ ?_),
        fun j hj => absurd hj (Nat.not_lt_zero j)⟩
      · decide +kernel
      · decide +kernel
      · decide +kernel
    have hstep := (step_outcome_exact Cpu.outOfRegisters 0 "ADD 9 x" (by decide +kernel)
      (by decide)).2.2.1
    rw [htrim] at hstep
    exact (((hstep (by decide) (by decide)).2 _ hd).2.fault 0 _ hfails).1
  · have hline : Cpu.onLongWord.program.lines[0]? = some (loadLine longWord) := by
      rw [Cpu.onLongWord, Cpu.load, Program.parse, lines_loadLine no_blank_longWord]
      exact List.getElem?_cons_zero
    have hstep := (step_outcome_exact Cpu.onLongWord 0 _ hline (by decide)).2.2.1
    rw [trim_loadLine longWord_ne_nil no_blank_longWord] at hstep
    obtain ⟨hfull, hplain⟩ := isLabel_loadLine longWord
    have hd := decode_loadLine longWord_ne_nil no_blank_longWord
    refine ((hstep hfull hplain).2 _ hd).2.oversized 1 _ ?_
    rw [← length_digitRun_longWord]
    refine Instruction.failsAt_loadLine longWord_ne_nil no_blank_longWord (by decide) ?_
    rw [length_digitRun_longWord]
    omega

end TickMachine
