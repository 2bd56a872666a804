import TickMachine.Cpu
import TickMachine.Proofs.Effect
import TickMachine.Proofs.Literal

namespace TickMachine

/-- The instruction that the line at an index spells; blank lines, labels and lines that cannot be
decoded spell none. -/
def Program.instructionAt? (p : Program) (index : Int) : Option Instruction :=
  match p.lineAt index with
  | .error _ => none
  | .ok line =>
    if Line.isLabel (Text.trim line) then none else (Instruction.decode (Text.trim line)).toOption

theorem Program.instructionAt?_eq_some_iff {p : Program} {index : Int} {i : Instruction} :
    p.instructionAt? index = some i ↔ ∃ line, p.lineAt index = .ok line ∧
      Line.isLabel (Text.trim line) = false ∧ Instruction.decode (Text.trim line) = .ok i := by
  unfold instructionAt?
  cases p.lineAt index with
  | error e => simp
  | ok line =>
    cases hm : Line.isLabel (Text.trim line) <;>
      cases hd : Instruction.decode (Text.trim line) <;> simp [hm, hd, Except.toOption]

theorem Program.mem_lines_of_lineAt {p : Program} {index : Int} {line : String}
    (h : p.lineAt index = .ok line) : line ∈ p.lines := by
  have hfrom : ∀ place, p.lineFrom place = .ok line → line ∈ p.lines := by
    intro place hplace
    unfold lineFrom at hplace
    split at hplace
    · cases hplace
    · split at hplace
      · rename_i hget
        cases hplace
        exact List.mem_of_getElem? hget
      · cases hplace
  unfold lineAt at h
  split at h
  · cases h
  · split at h
    · exact hfrom _ h
    · exact hfrom _ h

theorem Program.lineAt_of_getElem? {p : Program} {index : Nat} {line : String}
    (hline : p.lines[index]? = some line) (hwide : index < Hardware.indexLimit) :
    p.lineAt index = .ok line := by
  have hfits : ¬ ((index : Int) < -Hardware.indexLimit ∨ Hardware.indexLimit ≤ index) := by
    unfold Hardware.indexLimit at *
    omega
  unfold lineAt lineFrom
  rw [if_neg hfits, if_neg (by omega), if_neg (by omega), Int.toNat_natCast, hline]

theorem Program.lineAt_of_wide {p : Program} {index : Int} (h : Hardware.indexLimit ≤ index) :
    p.lineAt index = .error .tooWide := if_pos (.inr h)

theorem Program.fits_of_lineAt {p : Program} {index : Int} {line : String}
    (h : p.lineAt index = .ok line) :
    -Hardware.indexLimit ≤ index ∧ index < Hardware.indexLimit := by
  unfold lineAt at h
  split at h
  · cases h
  · omega

theorem Program.exists_lineAt {p : Program} {index : Int} (hlow : 0 ≤ index)
    (hhigh : index < p.size) (hwide : index < Hardware.indexLimit) :
    ∃ line, p.lineAt index = .ok line := by
  obtain ⟨n, rfl⟩ := Int.eq_ofNat_of_zero_le hlow
  have hlt : n < p.lines.length := by
    unfold size at hhigh
    omega
  exact ⟨p.lines[n], lineAt_of_getElem? (List.getElem?_eq_getElem hlt) hwide⟩

namespace Instruction

theorem decode_empty : decode "" = .error (.unknownInstruction "") := by
  simp [decode, split, Text.words]

theorem decode_cases {text : String} {i : Instruction} (h : decode text = .ok i) :
    i.text = text ∧ ∃ command,
      (∃ tag, Text.words text = command :: tag :: i.operands ∧
        Text.upper command = Op.jmp.name ∧ Op.ofTag? tag = some i.op) ∨
      Text.words text = command :: i.operands ∧
        Op.ofCommand? (Text.upper command) = some i.op := by
  unfold decode split at h
  cases hw : Text.words text with
  | nil => simp [hw] at h
  | cons command operands =>
    simp only [hw] at h
    split at h
    · rename_i hcommand
      cases operands with
      | nil => cases h
      | cons tag operands =>
        cases ht : Op.ofTag? tag with
        | none => simp [decodeJump, ht] at h
        | some op =>
          simp only [decodeJump, ht] at h
          cases h
          exact ⟨rfl, command, .inl ⟨tag, rfl, hcommand, ht⟩⟩
    · cases hc : Op.ofCommand? (Text.upper command) with
      | none => simp [hc] at h
      | some op =>
        simp only [hc] at h
        cases h
        exact ⟨rfl, command, .inr ⟨rfl, hc⟩⟩

theorem decode_spec {text : String} {i : Instruction} (h : decode text = .ok i) :
    i.text = text ∧ ∀ token ∈ i.operands, token ∈ Text.words text := by
  obtain ⟨htext, command, ⟨tag, hwords, -⟩ | ⟨hwords, -⟩⟩ := decode_cases h
  · refine ⟨htext, ?_⟩
    intro token htoken
    rw [hwords]
    exact List.mem_cons_of_mem _ (List.mem_cons_of_mem _ htoken)
  · refine ⟨htext, ?_⟩
    intro token htoken
    rw [hwords]
    exact List.mem_cons_of_mem _ htoken

end Instruction

namespace Cpu

variable {c : Cpu} {index : Int}

/-- How the work of an instruction at an index ends, and the machine that it leaves. -/
def worked (c : Cpu) (index : Int) (i : Instruction) : Except Trap (Option Int) × Machine :=
  Effect.commit index c.machine (i.effect c.program c.machine)

theorem worked_eq_error_iff {i : Instruction} {t : Trap} :
    (c.worked index i).1 = .error t ↔ i.effect c.program c.machine = .error t := by
  unfold worked
  cases i.effect c.program c.machine <;> simp [Effect.commit]

theorem execute_of_decode {text : String} {i : Instruction} (h : Instruction.decode text = .ok i) :
    (c.moveTo index).execute text =
      ⟨{ c.moveTo index with machine := (c.worked index i).2 }, [executing i],
        (c.worked index i).1⟩ := by
  simp only [execute, h, Instruction.on_handle]
  rfl

theorem step_of_instruction {i : Instruction} (h : c.program.instructionAt? index = some i) :
    c.step index = conclude index i.text
      ⟨{ c.moveTo index with machine := (c.worked index i).2 }, [executing i],
        (c.worked index i).1⟩ := by
  obtain ⟨line, hl, hm, hd⟩ := Program.instructionAt?_eq_some_iff.mp h
  have hb : Text.trim line ≠ "" := by
    intro he
    rw [he, Instruction.decode_empty] at hd
    cases hd
  simp only [step, hl, visit, hb, hm, if_false, (Instruction.decode_spec hd).1,
    execute_of_decode hd]
  rfl

theorem step_of_fetch_error {e : FetchError} (h : c.program.lineAt index = .error e) :
    c.step index = ⟨c.moveTo index, [], .error (.fetch e)⟩ := by
  simp [step, h]

theorem step_of_blank {line : String} (hl : c.program.lineAt index = .ok line)
    (hb : Text.trim line = "") : c.step index = ⟨c.moveTo index, [], .ok (some (index + 1))⟩ := by
  simp [step, hl, visit, hb, moveTo]

theorem step_of_label {line : String} (hl : c.program.lineAt index = .ok line)
    (hb : Text.trim line ≠ "") (hm : Line.isLabel (Text.trim line) = true) :
    c.step index =
      ⟨c.moveTo index, [decoding (Text.trim line) index], .ok (some (index + 1))⟩ := by
  simp [step, hl, visit, hb, hm, moveTo]

theorem step_of_undecodable {line : String} {f : Fault} (hl : c.program.lineAt index = .ok line)
    (hb : Text.trim line ≠ "") (hm : Line.isLabel (Text.trim line) = false)
    (hd : Instruction.decode (Text.trim line) = .error f) :
    c.step index =
      conclude index (Text.trim line) ⟨c.moveTo index, [], .error (.fault f)⟩ := by
  simp only [step, hl, visit, hb, hm, execute, hd, if_false]
  rfl

theorem step_of_no_instruction {line : String} (hl : c.program.lineAt index = .ok line)
    (h : c.program.instructionAt? index = none) :
    (c.step index).state = c.moveTo index ∧ (c.step index).result = .ok (some (index + 1)) := by
  by_cases hb : Text.trim line = ""
  · rw [step_of_blank hl hb]
    exact ⟨rfl, rfl⟩
  cases hm : Line.isLabel (Text.trim line) with
  | true =>
    rw [step_of_label hl hb hm]
    exact ⟨rfl, rfl⟩
  | false =>
    cases hd : Instruction.decode (Text.trim line) with
    | ok i =>
      rw [Program.instructionAt?_eq_some_iff.mpr ⟨line, hl, hm, hd⟩] at h
      cases h
    | error f =>
      rw [step_of_undecodable hl hb hm hd]
      exact ⟨rfl, rfl⟩

/-- What a step can do: it leaves the machine as it was and goes on, if it does, at the next line,
or the line at its index spells an instruction that has an effect. -/
theorem step_inversion (c : Cpu) (index : Int) :
    ((c.step index).state = c.moveTo index ∧
      ∀ next, (c.step index).result = .ok (some next) → next = index + 1) ∨
      ∃ i e, c.program.instructionAt? index = some i ∧ i.effect c.program c.machine = .ok e ∧
        (c.step index).state = { c.moveTo index with machine := e.apply index c.machine } ∧
        (c.step index).result = .ok (some (e.target?.getD (index + 1))) := by
  cases hl : c.program.lineAt index with
  | error e =>
    rw [step_of_fetch_error hl]
    refine .inl ⟨rfl, ?_⟩
    intro next hnext
    cases hnext
  | ok line =>
    cases hi : c.program.instructionAt? index with
    | none =>
      obtain ⟨hstate, hresult⟩ := step_of_no_instruction hl hi
      refine .inl ⟨hstate, ?_⟩
      intro next hnext
      rw [hresult] at hnext
      cases hnext
      rfl
    | some i =>
      have hs := step_of_instruction hi
      cases he : i.effect c.program c.machine with
      | error t =>
        simp only [worked, he, Effect.commit] at hs
        rw [hs]
        refine .inl ⟨rfl, ?_⟩
        intro next hnext
        -- A fault is reported and the run goes on behind it; every other trap ends the step.
        cases t with
        | fault f =>
          cases hnext
          rfl
        | emptyCallStack | halt | oversizedLiteral | unwritable => cases hnext
      | ok e =>
        simp only [worked, he, Effect.commit] at hs
        exact .inr ⟨i, e, rfl, he, by rw [hs]; rfl, by rw [hs]; rfl⟩

theorem step_cases (c : Cpu) (index : Int) :
    (c.step index).state = c.moveTo index ∨
      ∃ i e, c.program.instructionAt? index = some i ∧ i.effect c.program c.machine = .ok e ∧
        (c.step index).state = { c.moveTo index with machine := e.apply index c.machine } ∧
        (c.step index).result = .ok (some (e.target?.getD (index + 1))) :=
  (step_inversion c index).imp_left And.left

@[simp]
theorem step_program (c : Cpu) (index : Int) : (c.step index).state.program = c.program := by
  obtain h | ⟨i, e, _, _, h, _⟩ := step_cases c index <;> rw [h] <;> rfl

/-- A step that gives an answer has fetched its line, so that its index is not too long. -/
theorem fits_of_step {c : Cpu} {index : Int} {next : Option Int}
    (h : (c.step index).result = .ok next) :
    -Hardware.indexLimit ≤ index ∧ index < Hardware.indexLimit := by
  cases hl : c.program.lineAt index with
  | error e =>
    rw [step_of_fetch_error hl] at h
    cases h
  | ok line => exact Program.fits_of_lineAt hl

theorem step_state_of_no_next (c : Cpu) (index : Int)
    (h : ∀ next, (c.step index).result ≠ .ok (some next)) :
    (c.step index).state = c.moveTo index := by
  obtain hs | ⟨i, e, _, _, _, hr⟩ := step_cases c index
  · exact hs
  · exact absurd hr (h _)

end Cpu
end TickMachine
