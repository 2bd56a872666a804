import TickMachine.Proofs.Labels
import TickMachine.Proofs.Literal
import TickMachine.Proofs.Lockstep
import TickMachine.Proofs.Words

namespace TickMachine

namespace Text

variable {w cs : List Char}

/-- Puts another word in the place of the one with a given number. The blanks stay as they are. -/
def replaceWord (w : List Char) : Nat → List Char → List Char
  | 0, cs => cs.takeWhile isBlank ++ (w ++ afterFirst cs)
  | n + 1, cs => cs.takeWhile isBlank ++ (firstWord cs ++ replaceWord w n (afterFirst cs))

theorem ends_replaceWord (hne : cs ≠ []) (h : Ends cs) (n : Nat) : Ends (replaceWord w n cs) := by
  obtain ⟨c, rest, rfl⟩ := List.exists_cons_of_ne_nil hne
  have hc : isBlank c = true := h c rfl
  have hhead : (replaceWord w n (c :: rest)).head? = some c := by
    cases n <;> simp [replaceWord, List.takeWhile_cons_of_pos hc]
  intro d hd
  rw [hhead] at hd
  cases hd
  exact hc

theorem wordsOf_takeWhile_append (cs rest : List Char) :
    wordsOf (cs.takeWhile isBlank ++ rest) = wordsOf rest :=
  wordsOf_append_of_blank (fun _ hc => List.mem_takeWhile_imp hc) rest

theorem wordsOf_replaceWord (hne : w ≠ []) (hw : ∀ c ∈ w, isBlank c = false) {n : Nat}
    (hn : n < (wordsOf cs).length) : wordsOf (replaceWord w n cs) = (wordsOf cs).set n w := by
  induction n generalizing cs with
  | zero =>
    have hfirst : firstWord cs ≠ [] := by
      intro hnil
      simp [wordsOf_eq_nil hnil] at hn
    rw [replaceWord, wordsOf_takeWhile_append, wordsOf_append_of_ends hne hw (ends_afterFirst cs),
      wordsOf_eq_cons hfirst, List.set_cons_zero]
  | succ n ih =>
    have hfirst : firstWord cs ≠ [] := by
      intro hnil
      simp [wordsOf_eq_nil hnil] at hn
    have hrest : n < (wordsOf (afterFirst cs)).length := by
      rw [wordsOf_eq_cons hfirst, List.length_cons] at hn
      omega
    have hafter : afterFirst cs ≠ [] := by
      intro hnil
      simp [hnil] at hrest
    -- What is behind the first word still begins with a blank when a word in it is replaced.
    have hends : Ends (replaceWord w n (afterFirst cs)) :=
      ends_replaceWord hafter (ends_afterFirst cs) n
    rw [replaceWord, wordsOf_takeWhile_append,
      wordsOf_append_of_ends hfirst firstWord_no_blank hends, ih hrest, wordsOf_eq_cons hfirst,
      List.set_cons_succ]

theorem mem_of_mem_afterFirst {c : Char} (h : c ∈ afterFirst cs) : c ∈ cs :=
  (List.dropWhile_suffix _).subset ((List.dropWhile_suffix _).subset h)

theorem mem_of_mem_firstWord {c : Char} (h : c ∈ firstWord cs) : c ∈ cs :=
  (List.dropWhile_suffix _).subset ((List.takeWhile_prefix _).subset h)

theorem mem_replaceWord {c : Char} {n : Nat} (h : c ∈ replaceWord w n cs) : c ∈ w ∨ c ∈ cs := by
  induction n generalizing cs with
  | zero =>
    simp only [replaceWord, List.mem_append] at h
    obtain hblank | hword | hrest := h
    · exact .inr ((List.takeWhile_prefix _).subset hblank)
    · exact .inl hword
    · exact .inr (mem_of_mem_afterFirst hrest)
  | succ n ih =>
    simp only [replaceWord, List.mem_append] at h
    obtain hblank | hword | hrest := h
    · exact .inr ((List.takeWhile_prefix _).subset hblank)
    · exact .inr (mem_of_mem_firstWord hword)
    · exact (ih hrest).imp_right mem_of_mem_afterFirst

end Text

namespace Instruction

theorem jump_of_decode {text : String} {i : Instruction} (h : decode text = .ok i)
    (hop : i.op ∈ Op.jumpTags.map Prod.snd) :
    ∃ command tag, Text.words text = command :: tag :: i.operands ∧
      Text.upper command = Op.jmp.name ∧ Op.ofTag? tag = some i.op := by
  obtain ⟨-, command, ⟨tag, htagged⟩ | ⟨-, hcommand⟩⟩ := decode_cases h
  · exact ⟨command, tag, htagged⟩
  · have hmem : (Text.upper command, i.op) ∈ Op.commands := mem_of_lookup hcommand
    exact absurd hop (Op.mem_commands.mp hmem).2

theorem decode_of_jump {text command tag : String} {operands : List String} {op : Op}
    (hw : Text.words text = command :: tag :: operands)
    (hc : Text.upper command = Op.jmp.name) (ht : Op.ofTag? tag = some op) :
    decode text = .ok ⟨op, operands, text⟩ := by
  simp [decode, split, hw, hc, decodeJump, ht]

end Instruction

namespace Line

/-- The label that a line jumps to or calls, as the index it stands for. -/
def labelledTarget? (labels : LabelTable) (line : String) : Option Nat :=
  if isLabel (Text.trim line) then none
  else
    match Instruction.decode (Text.trim line) with
    | .ok i =>
      if i.op = .jmp ∨ i.op = .call then i.operands.head?.bind labels.find? else none
    | .error _ => none

/-- The line with the index of the label in the place of the label. The target of a jump is its
third word, behind the command and the tag. -/
def withIndex (labels : LabelTable) (line : String) : String :=
  match labelledTarget? labels line with
  | some index => String.ofList (Text.replaceWord (Nat.toDigits 10 index) 2 line.toList)
  | none => line

/-- A line that jumps to a target or calls it. -/
structure Jump (line : String) (op : Op) (target : String) (others : List String) : Prop where
  statement : isLabel (Text.trim line) = false
  targets : op = .jmp ∨ op = .call
  words : ∃ command tag, Text.words line = command :: tag :: target :: others ∧
    Text.upper command = Op.jmp.name ∧ Op.ofTag? tag = some op

namespace Jump

variable {line line' target target' : String} {op : Op} {others others' : List String}

theorem decode (h : Jump line op target others) :
    Instruction.decode (Text.trim line) = .ok ⟨op, target :: others, Text.trim line⟩ := by
  obtain ⟨command, tag, hwords, hcommand, htag⟩ := h.words
  rw [← Text.words_trim] at hwords
  exact Instruction.decode_of_jump hwords hcommand htag

theorem labelledTarget? (h : Jump line op target others) (labels : LabelTable) :
    labelledTarget? labels line = labels.find? target := by
  simp [Line.labelledTarget?, h.statement, h.decode, h.targets]

theorem trim_ne_empty (h : Jump line op target others) : Text.trim line ≠ "" := by
  obtain ⟨command, tag, hwords, -⟩ := h.words
  simp [ne_eq, ← Text.words_eq_nil_iff, hwords]

theorem outcome_congr {p q : Program} {index : Int} (h : Jump line op target others)
    (h' : Jump line' op target' others') (hr : p.resolve target = .ok index)
    (hr' : q.resolve target' = .ok index) (m : Machine) :
    p.outcome (Text.trim line) m = q.outcome (Text.trim line') m := by
  have hp : Instruction.target ⟨op, target :: others, Text.trim line⟩ p 0 = .ok index := hr
  have hq : Instruction.target ⟨op, target' :: others', Text.trim line'⟩ q 0 = .ok index := hr'
  simp only [Program.outcome, h.trim_ne_empty, h'.trim_ne_empty, h.statement, h'.statement,
    h.decode, h'.decode, Instruction.effect]
  obtain rfl | rfl := h.targets <;> simp only [hp, hq]

theorem replaceWord {w : List Char} (h : Jump line op target others) (hne : w ≠ [])
    (hw : ∀ c ∈ w, Text.isBlank c = false) :
    Jump (String.ofList (Text.replaceWord w 2 line.toList)) op (String.ofList w) others := by
  obtain ⟨command, tag, hwords, hcommand, htag⟩ := h.words
  have hcount : 2 < (Text.wordsOf line.toList).length := by
    have hlength := congrArg List.length hwords
    simp only [Text.words, List.length_map, List.length_cons] at hlength
    omega
  have hreplaced : Text.words (String.ofList (Text.replaceWord w 2 line.toList)) =
      command :: tag :: String.ofList w :: others := by
    rw [Text.words, String.toList_ofList, Text.wordsOf_replaceWord hne hw hcount, List.map_set,
      ← Text.words, hwords]
    rfl
  refine ⟨?_, h.targets, command, tag, hreplaced, hcommand, htag⟩
  rw [← h.statement]
  apply isLabel_trim_congr
  rw [hreplaced, hwords]
  rfl

end Jump

variable {labels : LabelTable} {line : String} {index : Nat}

theorem jump_of_labelledTarget? (h : labelledTarget? labels line = some index) :
    ∃ op name others, Jump line op name others ∧ labels.find? name = some index := by
  unfold labelledTarget? at h
  split at h
  · cases h
  · rename_i hstatement
    split at h
    · rename_i i hdecode
      split at h
      · rename_i htargets
        have htagged : i.op ∈ Op.jumpTags.map Prod.snd := by
          obtain hop | hop := htargets <;> simp [hop, Op.jumpTags]
        obtain ⟨command, tag, hwords, hcommand, htag⟩ := Instruction.jump_of_decode hdecode htagged
        cases hoperands : i.operands with
        | nil => simp [hoperands] at h
        | cons name others =>
          have hfound : labels.find? name = some index := by simpa [hoperands] using h
          rw [Text.words_trim, hoperands] at hwords
          have hjump : Jump line i.op name others :=
            ⟨by simpa using hstatement, htargets, command, tag, hwords, hcommand, htag⟩
          exact ⟨i.op, name, others, hjump, hfound⟩
      · cases h
    · cases h

/-- Either a line stays as it is, or it jumps to a label and then to the index of that label. -/
theorem withIndex_cases (labels : LabelTable) (line : String) :
    labelledTarget? labels line = none ∧ withIndex labels line = line ∨
      ∃ op name others index, labels.find? name = some index ∧ Jump line op name others ∧
        Jump (withIndex labels line) op (Literal.decimal index) others := by
  cases h : labelledTarget? labels line with
  | none => exact .inl ⟨rfl, by simp only [withIndex, h]⟩
  | some index =>
    obtain ⟨op, name, others, hjump, hfound⟩ := jump_of_labelledTarget? h
    refine .inr ⟨op, name, others, index, hfound, hjump, ?_⟩
    simp only [withIndex, h]
    apply hjump.replaceWord Nat.toDigits_ne_nil
    intro c hc
    exact Text.isBlank_of_isDigit (Literal.isDigit_of_mem_decimal hc)

theorem label?_withIndex (labels : LabelTable) (line : String) :
    label? (withIndex labels line) = label? line := by
  obtain ⟨-, hsame⟩ | ⟨op, name, others, index, -, hjump, hindexed⟩ := withIndex_cases labels line
  · rw [hsame]
  · simp [label?, hjump.statement, hindexed.statement]

theorem newline_not_mem_withIndex (h : '\n' ∉ line.toList) :
    '\n' ∉ (withIndex labels line).toList := by
  unfold withIndex
  split
  · rw [String.toList_ofList]
    intro hmem
    obtain hdigit | hline := Text.mem_replaceWord hmem
    · exact absurd (Literal.isDigit_of_mem_decimal hdigit) (by decide)
    · exact h hline
  · exact h

end Line

/-- The source in which every jump and every call to a label gives the index of the label. -/
def Text.withIndices (source : String) : String :=
  "\n".intercalate ((lines source).map (Line.withIndex (Program.parse source).labels))

theorem Text.lines_withIndices (source : String) :
    lines (withIndices source) =
      (lines source).map (Line.withIndex (Program.parse source).labels) := by
  apply lines_intercalate
  · simpa using lines_ne_nil source
  · intro line hline
    obtain ⟨line, hmem, rfl⟩ := List.mem_map.mp hline
    exact Line.newline_not_mem_withIndex (newline_not_mem_line hmem)

namespace Program

variable {source : String}

theorem labels_withIndices (source : String) :
    (parse source).labels = (parse (Text.withIndices source)).labels := by
  apply labels_congr
  rw [Text.lines_withIndices, List.forall₂_map_right_iff, List.forall₂_same]
  intro line _
  exact (Line.label?_withIndex _ line).symm

section PlainNames

variable (hnames : ∀ line ∈ Text.lines source, ∀ name ∈ Line.label? line, ¬ Literal.IsNumeral name)

include hnames

theorem find?_decimal (n : Nat) :
    (parse source).labels.find? (Literal.decimal n) = none := by
  rw [Option.eq_none_iff_forall_ne_some]
  intro index hfound
  obtain ⟨line, hline, hlabel⟩ := line_of_find? hfound
  exact hnames line (List.mem_of_getElem? hline) _ hlabel (Literal.isNumeral_decimal n)

theorem resolve_decimal (hsize : (parse source).size < Nat.pow 10 Literal.maxDigits)
    {name : String} {index : Nat} (hfound : (parse source).labels.find? name = some index) :
    (parse source).resolve (Literal.decimal index) = .ok index := by
  obtain ⟨line, hline, -⟩ := line_of_find? hfound
  have hlt : index < (parse source).size := (List.getElem?_eq_some_iff.mp hline).1
  simp only [resolve, find?_decimal hnames, Literal.read_decimal (hlt.trans hsize)]

/-- What a jump or call to a label comes to is the same with the index of the label. -/
theorem outcome_withIndex (hsize : (parse source).size < Nat.pow 10 Literal.maxDigits)
    (line : String) (m : Machine) :
    Except.Alike ((parse source).outcome (Text.trim line) m)
      ((parse (Text.withIndices source)).outcome
        (Text.trim (Line.withIndex (parse source).labels line)) m) := by
  have hlabels := labels_withIndices source
  obtain ⟨-, hsame⟩ | ⟨op, name, others, index, hfound, hjump, hindexed⟩ :=
    Line.withIndex_cases (parse source).labels line
  · rw [hsame]
    exact outcome_alike hlabels _ m
  · have hname : (parse source).resolve name = .ok index := by simp only [resolve, hfound]
    have hindex : (parse (Text.withIndices source)).resolve (Literal.decimal index) =
        .ok index := by
      rw [← resolve_congr hlabels]
      exact resolve_decimal hnames hsize hfound
    rw [hjump.outcome_congr hindexed hname hindex m]
    exact .refl _

theorem labelledTarget?_withIndex (line : String) :
    Line.labelledTarget? (parse source).labels (Line.withIndex (parse source).labels line) =
      none := by
  obtain ⟨hnone, hsame⟩ | ⟨op, name, others, index, -, -, hindexed⟩ :=
    Line.withIndex_cases (parse source).labels line
  · rw [hsame, hnone]
  · rw [hindexed.labelledTarget?, find?_decimal hnames]

end PlainNames
end Program

/-- Labels stand for indices: where every jump and every call to a label gives the index of the
label instead, the labels are the same and the program runs in lockstep, and no jump to a label is
left. -/
theorem lockstep_withIndices (source : String)
    (hsize : (Program.parse source).size < Nat.pow 10 Literal.maxDigits)
    (hnames : ∀ line ∈ Text.lines source, ∀ name ∈ Line.label? line, ¬ Literal.IsNumeral name) :
    (Program.parse source).Lockstep (Program.parse (Text.withIndices source)) ∧
      ∀ line ∈ Text.lines (Text.withIndices source),
        Line.labelledTarget? (Program.parse source).labels line = none := by
  have halike : (Program.parse source).Alike (Program.parse (Text.withIndices source)) := by
    refine ⟨Program.labels_withIndices source, ?_⟩
    rw [Program.lines_parse, Program.lines_parse, Text.lines_withIndices,
      List.forall₂_map_right_iff, List.forall₂_same]
    intro line _ m
    exact Program.outcome_withIndex hnames hsize line m
  refine ⟨halike.lockstep, ?_⟩
  rw [Text.lines_withIndices]
  intro line hline
  obtain ⟨line, -, rfl⟩ := List.mem_map.mp hline
  exact Program.labelledTarget?_withIndex hnames line

def labelledSource : String :=
  ".loop\njmp\t10  end  x\nJMP 00 loop\n.loop\nJMP 00 nowhere\n .end\nJMP 01"

theorem lockstep_withIndices_labelled :
    Text.withIndices labelledSource =
        ".loop\njmp\t10  5  x\nJMP 00 3\n.loop\nJMP 00 nowhere\n .end\nJMP 01" ∧
      (Program.parse labelledSource).size < Nat.pow 10 Literal.maxDigits ∧
      (∀ line ∈ Text.lines labelledSource, ∀ name ∈ Line.label? line, ¬ Literal.IsNumeral name) ∧
      (Program.parse labelledSource).Lockstep (Program.parse (Text.withIndices labelledSource)) ∧
      ∀ line ∈ Text.lines (Text.withIndices labelledSource),
        Line.labelledTarget? (Program.parse labelledSource).labels line = none := by
  have hsize : (Program.parse labelledSource).size < Nat.pow 10 Literal.maxDigits := by
    decide +kernel
  have hlabels : (Text.lines labelledSource).filterMap Line.label? = ["loop", "loop", "end"] := by
    decide +kernel
  have hnames : ∀ line ∈ Text.lines labelledSource, ∀ name ∈ Line.label? line,
      ¬ Literal.IsNumeral name := by
    intro line hline name hname
    have hmem : name ∈ (Text.lines labelledSource).filterMap Line.label? :=
      List.mem_filterMap.mpr ⟨line, hline, hname⟩
    have hplain : ∀ name ∈ ["loop", "loop", "end"], ¬ Literal.IsNumeral name := by decide
    rw [hlabels] at hmem
    exact hplain name hmem
  exact ⟨by decide +kernel, hsize, hnames, lockstep_withIndices labelledSource hsize hnames⟩

end TickMachine
