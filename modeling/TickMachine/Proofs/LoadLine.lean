import TickMachine.Proofs.Literal
import TickMachine.Proofs.Step

namespace TickMachine

/-- The line that sets register 0 to a row of digits. -/
def loadLine (ds : List Char) : String := String.ofList (['I', 'M', 'M', ' ', '0', ' '] ++ ds)

theorem isLabel_loadLine (w : List Char) :
    loadLine w ≠ "" ∧ Line.isLabel (loadLine w) = false := by
  constructor
  · rw [loadLine, Ne, ← String.toList_eq_nil_iff, String.toList_ofList]
    exact List.cons_ne_nil _ _
  · rw [Line.isLabel, loadLine, String.toList_ofList]
    rfl

section LoadLine

variable {w : List Char} (hne : w ≠ []) (h : ∀ c ∈ w, Text.isBlank c = false)
include h

theorem lines_loadLine : Text.lines (loadLine w) = [loadLine w] := by
  have hone : ∀ c ∈ ['I', 'M', 'M', ' ', '0', ' '] ++ w, (c == '\n') = false := by
    intro c hc
    rw [List.mem_append] at hc
    obtain hc | hc := hc
    · simp only [List.mem_cons, List.not_mem_nil, or_false] at hc
      rcases hc with rfl | rfl | rfl | rfl | rfl | rfl <;> rfl
    · rw [beq_eq_false_iff_ne]
      rintro rfl
      exact absurd (h _ hc) (by decide)
  rw [Text.lines, loadLine, String.toList_ofList, List.splitOn, List.splitOnP_eq_singleton hone,
    List.map_singleton]

theorem inProgram_loadLine {c : Cpu} (hp : c.program = .parse (loadLine w)) :
    c.inProgram 0 = true := by
  rw [Cpu.inProgram, hp, Program.size, Program.parse, lines_loadLine h]
  rfl

include hne

theorem trim_loadLine : Text.trim (loadLine w) = loadLine w := by
  have hlast : (['I', 'M', 'M', ' ', '0', ' '] ++ w).reverse.dropWhile Text.isBlank =
      (['I', 'M', 'M', ' ', '0', ' '] ++ w).reverse := by
    obtain ⟨front, c, rfl⟩ : ∃ front c, w = front ++ [c] :=
      ⟨_, _, (List.dropLast_concat_getLast hne).symm⟩
    have hc := h c (by simp)
    rw [← List.append_assoc, List.reverse_append]
    exact List.dropWhile_cons_of_neg (by simp [hc])
  rw [Text.trim, Text.trimBlanks, loadLine, String.toList_ofList, List.cons_append,
    List.dropWhile_cons_of_neg (by decide), ← List.cons_append, hlast, List.reverse_reverse]

theorem words_loadLine : Text.words (loadLine w) = ["IMM", "0", String.ofList w] := by
  have hword := Text.wordsOf_of_no_blank hne h
  have hcommand : Text.wordsOf ['I', 'M', 'M'] = [['I', 'M', 'M']] := by decide +kernel
  have hregister : Text.wordsOf ['0'] = [['0']] := by decide +kernel
  have hsplit : ['I', 'M', 'M', ' ', '0', ' '] ++ w =
      ['I', 'M', 'M'] ++ ' ' :: (['0'] ++ ' ' :: w) := rfl
  rw [Text.words, loadLine, String.toList_ofList, hsplit, Text.wordsOf_append_blank (by decide),
    Text.wordsOf_append_blank (by decide), hcommand, hregister, hword]
  rfl

theorem decode_loadLine :
    Instruction.decode (loadLine w) = .ok ⟨.imm, ["0", String.ofList w], loadLine w⟩ := by
  have hcommand : Text.upper "IMM" = "IMM" := by decide +kernel
  have himm : Op.ofCommand? "IMM" = some .imm := by decide +kernel
  rw [Instruction.decode, Instruction.split, words_loadLine hne h]
  simp only [hcommand, himm]
  rfl

theorem instructionAt?_loadLine :
    (Program.parse (loadLine w)).instructionAt? 0 =
      some ⟨.imm, ["0", String.ofList w], loadLine w⟩ := by
  rw [Program.instructionAt?_eq_some_iff]
  refine ⟨loadLine w, ?_, ?_, ?_⟩
  · rw [Program.parse, lines_loadLine h]
    rfl
  · rw [trim_loadLine hne h, (isLabel_loadLine w).2]
  · rw [trim_loadLine hne h, decode_loadLine hne h]

end LoadLine

theorem Bank.locate_zero {b : Bank} (hb : 0 < b.size) : b.locate "0" = .ok 0 := by
  have hzero : Literal.read "0" = .value 0 := by decide +kernel
  have hcheck : b.check 0 = .ok 0 := Bank.check_eq_ok_iff.mpr ⟨rfl, hb⟩
  rw [Bank.locate, hzero]
  exact hcheck

theorem effect_loadLine (w : List Char) (p : Program) {m : Machine} (hm : 0 < m.registers.size) :
    Instruction.effect ⟨.imm, ["0", String.ofList w], loadLine w⟩ p m =
      (Literal.number (String.ofList w)).bind fun v => .ok (.setRegister 0 (.ofInt v)) := by
  have heffect : Instruction.effect ⟨.imm, ["0", String.ofList w], loadLine w⟩ p m =
      (m.registers.locate "0").bind fun a =>
        (Literal.number (String.ofList w)).bind fun v => .ok (.setRegister a (.ofInt v)) := rfl
  rw [heffect, Bank.locate_zero hm]
  rfl

def ones (n : Nat) : List Char := List.replicate n '1'

section Ones

variable {n : Nat} {tail : List Char}

theorem isDigit_of_mem_ones {d : Char} (hd : d ∈ ones n) : d.isDigit = true := by
  rw [List.eq_of_mem_replicate hd]
  rfl

theorem dropSign_ones_append (hn : 0 < n) :
    Literal.dropSign (ones n ++ tail) = ones n ++ tail := by
  obtain ⟨k, rfl⟩ := Nat.exists_eq_add_of_lt hn
  rfl

variable (htail : ∀ c ∈ tail, c.isDigit = false ∧ Text.isBlank c = false)
include htail

theorem no_blank_ones_append : ∀ c ∈ ones n ++ tail, Text.isBlank c = false := by
  intro c hc
  obtain hc | hc := List.mem_append.mp hc
  · exact Text.isBlank_of_isDigit (isDigit_of_mem_ones hc)
  · exact (htail c hc).2

theorem digitRun_ones_append (hn : 0 < n) :
    Literal.digitRun (String.ofList (ones n ++ tail)) = ones n := by
  have htail' : Literal.PastDigits tail := fun c hc => (htail c (List.mem_of_mem_head? hc)).1
  rw [Literal.digitRun, String.toList_ofList, dropSign_ones_append hn,
    Literal.takeWhile_digits (fun d hd => isDigit_of_mem_ones hd) htail']

theorem read_ones_append (hn : Literal.maxDigits < n) :
    Literal.read (String.ofList (ones n ++ tail)) = .oversized n := by
  have hpad : ∀ c ∈ (String.ofList (ones n ++ tail)).toList, Literal.isPad c = false := by
    rw [String.toList_ofList]
    exact fun c hc => Literal.isPad_eq_false (no_blank_ones_append htail c hc)
  rw [Literal.read_eq hpad, digitRun_ones_append htail (Nat.zero_lt_of_lt hn), ones,
    List.length_replicate, if_pos hn]

theorem step_ones_append (hn : Literal.maxDigits < n) {c : Cpu}
    (hp : c.program = .parse (loadLine (ones n ++ tail))) (hm : 0 < c.machine.registers.size) :
    c.inProgram 0 = true ∧ (c.step 0).result = .error (.trap (.oversizedLiteral n)) := by
  have hblank := no_blank_ones_append (n := n) htail
  have hne : ones n ++ tail ≠ [] := by
    obtain ⟨k, rfl⟩ := Nat.exists_eq_add_of_lt (Nat.zero_lt_of_lt hn)
    exact List.cons_ne_nil _ _
  have hi := instructionAt?_loadLine hne hblank
  rw [← hp] at hi
  refine ⟨inProgram_loadLine hblank hp, ?_⟩
  rw [Cpu.step_of_instruction hi, Cpu.worked, effect_loadLine _ c.program hm, Literal.number,
    read_ones_append htail hn]
  rfl

end Ones

theorem step_ones {n : Nat} (hn : Literal.maxDigits < n) {c : Cpu}
    (hp : c.program = .parse (loadLine (ones n))) (hm : 0 < c.machine.registers.size) :
    c.inProgram 0 = true ∧ (c.step 0).result = .error (.trap (.oversizedLiteral n)) := by
  have htail : ∀ c ∈ ([] : List Char), c.isDigit = false ∧ Text.isBlank c = false :=
    List.forall_mem_nil _
  exact step_ones_append htail hn (by rw [List.append_nil, hp]) hm

/-- A word that is no numeral, but begins with a digit too many. -/
def longWord : List Char := ones (Literal.maxDigits + 1) ++ ['x']

theorem longWord_tail : ∀ c ∈ ['x'], c.isDigit = false ∧ Text.isBlank c = false := by
  intro c hc
  rw [List.mem_singleton.mp hc]
  decide

theorem longWord_ne_nil : longWord ≠ [] := by simp [longWord]

theorem no_blank_longWord : ∀ c ∈ longWord, Text.isBlank c = false :=
  no_blank_ones_append longWord_tail

theorem length_digitRun_longWord :
    (Literal.digitRun (.ofList longWord)).length = Literal.maxDigits + 1 := by
  rw [longWord, digitRun_ones_append longWord_tail (Nat.succ_pos _), ones, List.length_replicate]

theorem not_isNumeral_longWord : ¬ Literal.IsNumeral (.ofList longWord) := by
  rintro ⟨-, hdigits⟩
  rw [String.toList_ofList, longWord, dropSign_ones_append (Nat.succ_pos _), List.all_eq_true]
    at hdigits
  exact absurd (hdigits 'x' (List.mem_append_right _ List.mem_cons_self)) (by decide)

end TickMachine
