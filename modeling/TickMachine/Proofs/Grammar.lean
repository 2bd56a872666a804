import TickMachine.Proofs.Labels
import TickMachine.Proofs.Spacing
import TickMachine.Proofs.Step

namespace TickMachine

namespace Op

def mnemonics : List (String × Op) :=
  [("NOOP", noop), ("ADD", add), ("SUB", sub), ("OR", or), ("XOR", xor), ("AND", and), ("NOT", not),
    ("RSH", rsh), ("IMM", imm), ("RLOD", rlod), ("RSTR", rstr)]

theorem lookup_eq_some_iff {table : List (String × Op)} {key : String} {op : Op}
    (h : ∀ entry ∈ table, table.lookup entry.1 = some entry.2) :
    table.lookup key = some op ↔ (key, op) ∈ table :=
  ⟨mem_of_lookup, h (key, op)⟩

theorem ofCommand?_eq_some_iff {command : String} {op : Op} :
    ofCommand? command = some op ↔ (command, op) ∈ mnemonics := by
  have htable : commands = mnemonics := by decide
  rw [ofCommand?, htable]
  exact lookup_eq_some_iff (by decide)

theorem ofTag?_eq_some_iff {tag : String} {op : Op} :
    ofTag? tag = some op ↔ (tag, op) ∈ jumpTags := lookup_eq_some_iff (by decide)

end Op

namespace Instruction

/-- The words of a statement, with the operation and the operands that they spell. -/
inductive Phrase : List String → Op → List String → Prop where
  | plain {command : String} {op : Op} (operands : List String)
      (h : (Text.upper command, op) ∈ Op.mnemonics) : Phrase (command :: operands) op operands
  | jump {command tag : String} {op : Op} (operands : List String)
      (hcommand : Text.upper command = "JMP")
      (htag : (tag, op) ∈ [("00", .jmp), ("10", .call), ("01", .ret)]) :
      Phrase (command :: tag :: operands) op operands

/-- A command to jump with nothing behind it. -/
def LoneJump (words : List String) : Prop :=
  ∃ command, words = [command] ∧ Text.upper command = "JMP"

/-- What becomes of a text with certain words. -/
inductive Verdict (text : String) : List String → Except Fault Instruction → Prop where
  | accepted {words operands : List String} {op : Op} (h : Phrase words op operands) :
      Verdict text words (.ok ⟨op, operands, text⟩)
  | loneJump {command : String} (h : Text.upper command = "JMP") :
      Verdict text [command] (.error (.malformed .jmp text))
  | unknownTag {command tag : String} {operands : List String}
      (hcommand : Text.upper command = "JMP") (htag : tag ∉ ["00", "10", "01"]) :
      Verdict text (command :: tag :: operands) (.error (.unknownJumpType tag))
  | unknownCommand {command : String} {operands : List String}
      (hjump : Text.upper command ≠ "JMP")
      (h : Text.upper command ∉ Op.mnemonics.map Prod.fst) :
      Verdict text (command :: operands) (.error (.unknownInstruction text))
  | blank : Verdict text [] (.error (.unknownInstruction text))

theorem verdict_decodeJump {text command : String} (h : Text.upper command = "JMP")
    (operands : List String) : Verdict text (command :: operands) (decodeJump text operands) := by
  cases operands with
  | nil => exact .loneJump h
  | cons tag operands =>
    rw [decodeJump]
    cases hop : Op.ofTag? tag with
    | some op => exact .accepted (.jump operands h (Op.ofTag?_eq_some_iff.mp hop))
    | none =>
      refine .unknownTag h ?_
      intro hmem
      simp only [List.mem_cons, List.not_mem_nil, or_false] at hmem
      rcases hmem with rfl | rfl | rfl <;> cases hop

theorem verdict_decode (text : String) : Verdict text (Text.words text) (decode text) := by
  unfold decode split
  cases Text.words text with
  | nil => exact .blank
  | cons command operands =>
    by_cases hjump : Text.upper command = "JMP"
    · simp only [hjump]
      exact verdict_decodeJump hjump operands
    · have hname : Text.upper command ≠ Op.jmp.name := hjump
      simp only [hname, if_false]
      cases hop : Op.ofCommand? (Text.upper command) with
      | some op => exact .accepted (.plain operands (Op.ofCommand?_eq_some_iff.mp hop))
      | none =>
        refine .unknownCommand hjump ?_
        intro hmem
        obtain ⟨⟨name, op⟩, hentry, rfl⟩ := List.mem_map.mp hmem
        rw [Op.ofCommand?_eq_some_iff.mpr hentry] at hop
        cases hop

theorem not_mnemonic_jump {op : Op} : ("JMP", op) ∉ Op.mnemonics := by
  cases op <;> decide

theorem Phrase.unique {words operands operands' : List String} {op op' : Op}
    (h : Phrase words op operands) (h' : Phrase words op' operands') :
    op = op' ∧ operands = operands' := by
  cases h with
  | plain operands hop =>
    cases h' with
    | plain _ hop' =>
      rw [← Op.ofCommand?_eq_some_iff] at hop hop'
      exact ⟨Option.some.inj (hop.symm.trans hop'), rfl⟩
    | jump _ hcommand => exact absurd (hcommand ▸ hop) not_mnemonic_jump
  | jump operands hcommand htag =>
    cases h' with
    | plain _ hop => exact absurd (hcommand ▸ hop) not_mnemonic_jump
    | jump _ _ htag' =>
      have hfound := Op.ofTag?_eq_some_iff.mpr htag
      exact ⟨Option.some.inj (hfound.symm.trans (Op.ofTag?_eq_some_iff.mpr htag')), rfl⟩

theorem Verdict.not_phrase {text : String} {words operands : List String} {f : Fault} {op : Op}
    (h : Verdict text words (.error f)) : ¬ Phrase words op operands := by
  intro hphrase
  cases hphrase with
  | plain _ hop =>
    cases h with
    | loneJump hcommand => exact not_mnemonic_jump (hcommand ▸ hop)
    | unknownTag hcommand => exact not_mnemonic_jump (hcommand ▸ hop)
    | unknownCommand _ hnone => exact hnone (List.mem_map_of_mem (f := Prod.fst) hop)
  | jump _ hcommand htag =>
    cases h with
    | unknownTag _ hnone => exact hnone (List.mem_map_of_mem (f := Prod.fst) htag)
    | unknownCommand hjump => exact hjump hcommand

/-- Where two rules apply to the same words, they agree on what becomes of them. -/
theorem Verdict.unique {text : String} {words : List String} {r r' : Except Fault Instruction}
    (h : Verdict text words r) (h' : Verdict text words r') : r = r' := by
  match r, r', h, h' with
  | .ok _, .ok _, .accepted hphrase, .accepted hphrase' =>
    obtain ⟨rfl, rfl⟩ := hphrase.unique hphrase'
    rfl
  | .ok _, .error _, .accepted hphrase, h' => exact absurd hphrase h'.not_phrase
  | .error _, .ok _, h, .accepted hphrase => exact absurd hphrase h.not_phrase
  | .error f, .error f', h, h' =>
    cases h with
    | loneJump hcommand =>
      cases h' with
      | loneJump => rfl
      | unknownCommand hjump => exact absurd hcommand hjump
    | unknownTag hcommand =>
      cases h' with
      | unknownTag => rfl
      | unknownCommand hjump => exact absurd hcommand hjump
    | unknownCommand hjump =>
      cases h' with
      | loneJump hcommand => exact absurd hcommand hjump
      | unknownTag hcommand => exact absurd hcommand hjump
      | unknownCommand => rfl
    | blank =>
      cases h'
      rfl

theorem decode_eq_iff {text : String} {r : Except Fault Instruction} :
    decode text = r ↔ Verdict text (Text.words text) r := by
  constructor
  · rintro rfl
    exact verdict_decode text
  · exact (verdict_decode text).unique

theorem Verdict.fault_cases {text : String} {words : List String} {f : Fault}
    (h : Verdict text words (.error f)) :
    LoneJump words ∧ f = .malformed .jmp text ∨ f.kind = .unknownInstruction := by
  cases h with
  | loneJump hcommand => exact .inl ⟨⟨_, rfl, hcommand⟩, rfl⟩
  | unknownTag | unknownCommand | blank => exact .inr rfl

section Respace

variable {text : String} {words : List String} (text' : String)

/-- An instruction keeps its text, which decides nothing else about it. -/
theorem Verdict.respace {i : Instruction} (h : Verdict text words (.ok i)) :
    Verdict text' words (.ok { i with text := text' }) := by
  cases h with
  | accepted hphrase => exact .accepted hphrase

theorem Verdict.respace_fault {f : Fault} (h : Verdict text words (.error f)) :
    ∃ g, Verdict text' words (.error g) ∧ g.kind = f.kind := by
  cases h with
  | loneJump hcommand => exact ⟨_, .loneJump hcommand, rfl⟩
  | unknownTag hcommand htag => exact ⟨_, .unknownTag hcommand htag, rfl⟩
  | unknownCommand hjump hnone => exact ⟨_, .unknownCommand hjump hnone, rfl⟩
  | blank => exact ⟨_, .blank, rfl⟩

end Respace

theorem Verdict.phrase {text : String} {words : List String} {i : Instruction}
    (h : Verdict text words (.ok i)) : i.text = text ∧ Phrase words i.op i.operands := by
  cases h with
  | accepted hphrase => exact ⟨rfl, hphrase⟩

theorem decode_eq_ok_iff {text : String} {i : Instruction} :
    decode text = .ok i ↔ i.text = text ∧ Phrase (Text.words text) i.op i.operands := by
  rw [decode_eq_iff]
  refine ⟨Verdict.phrase, ?_⟩
  rintro ⟨rfl, hphrase⟩
  exact .accepted hphrase

theorem decode_of_words_eq {text : String} {words : List String} {r : Except Fault Instruction}
    (hwords : Text.words text = words) (h : Verdict text words r) : decode text = r :=
  decode_eq_iff.mpr (hwords ▸ h)

def Unknown (text : String) : Prop :=
  ∃ f, decode text = .error f ∧ f.kind = .unknownInstruction

variable {text : String}

theorem decode_of_loneJump (h : LoneJump (Text.words text)) :
    decode text = .error (.malformed .jmp text) := by
  obtain ⟨command, hwords, hcommand⟩ := h
  exact decode_of_words_eq hwords (.loneJump hcommand)

theorem decode_eq_invalidOperand_iff {f : Fault} :
    decode text = .error f ∧ f.kind = .invalidOperand ↔
      LoneJump (Text.words text) ∧ f = .malformed .jmp text := by
  constructor
  · rintro ⟨hf, hkind⟩
    obtain hlone | hunknown := (decode_eq_iff.mp hf).fault_cases
    · exact hlone
    · rw [hunknown] at hkind
      cases hkind
  · rintro ⟨hlone, rfl⟩
    exact ⟨decode_of_loneJump hlone, rfl⟩

theorem unknown_iff : Unknown text ↔
    ¬ LoneJump (Text.words text) ∧ ¬ ∃ op operands, Phrase (Text.words text) op operands := by
  constructor
  · rintro ⟨f, hf, hkind⟩
    refine ⟨?_, ?_⟩
    · intro hlone
      rw [decode_of_loneJump hlone] at hf
      cases hf
      cases hkind
    · rintro ⟨op, operands, hphrase⟩
      exact (decode_eq_iff.mp hf).not_phrase hphrase
  · rintro ⟨hnot, hnone⟩
    cases hd : decode text with
    | ok i => exact absurd ⟨_, _, (decode_eq_ok_iff.mp hd).2⟩ hnone
    | error f =>
      obtain ⟨hlone, -⟩ | hunknown := (decode_eq_iff.mp hd).fault_cases
      · exact absurd hlone hnot
      · exact ⟨f, hd, hunknown⟩

/-- Calls and returns are told by the tag of a jump, not by commands of their own. -/
theorem unknown_of_name {command : String} {operands : List String}
    (hwords : Text.words text = command :: operands)
    (hcommand : Text.upper command ∈ ["CALL", "RET"]) : Unknown text := by
  have hother : ∀ name ∈ ["CALL", "RET"], name ≠ "JMP" ∧ name ∉ Op.mnemonics.map Prod.fst := by
    decide
  obtain ⟨hjump, hnone⟩ := hother _ hcommand
  exact ⟨_, decode_of_words_eq hwords (.unknownCommand hjump hnone), rfl⟩

end Instruction

/-- A statement is decoded exactly if its words are in the grammar, and then its operation and its
operands are those of the grammar. A command to jump that stands alone misses an operand. Every
other statement is unknown, also if it calls or returns by name or has another tag. With other gaps
between the same words a statement comes to the same. -/
theorem decode_exact (text : String) :
    let words := Text.words text
    (∀ i, Instruction.decode text = .ok i ↔
      i.text = text ∧ Instruction.Phrase words i.op i.operands) ∧
    (∀ f, Instruction.decode text = .error f ∧ f.kind = .invalidOperand ↔
      Instruction.LoneJump words ∧ f = .malformed .jmp text) ∧
    (Instruction.Unknown text ↔
      ¬ Instruction.LoneJump words ∧ ¬ ∃ op operands, Instruction.Phrase words op operands) ∧
    (words = [] → Instruction.Unknown text) ∧
    (∀ command operands, words = command :: operands → Text.upper command ∈ ["CALL", "RET"] →
      Instruction.Unknown text) ∧
    (∀ command tag operands, words = command :: tag :: operands → Text.upper command = "JMP" →
      tag ∉ ["00", "10", "01"] → Instruction.Unknown text) ∧
    ∀ l : Text.Spacing, l.words = words →
      (∀ i, Instruction.decode text = .ok i →
        Instruction.decode l.text = .ok { i with text := l.text }) ∧
      ∀ f, Instruction.decode text = .error f →
        ∃ g, Instruction.decode l.text = .error g ∧ g.kind = f.kind := by
  intro words
  refine ⟨fun i => Instruction.decode_eq_ok_iff, fun f => Instruction.decode_eq_invalidOperand_iff,
    Instruction.unknown_iff, ?_, ?_, ?_, ?_⟩
  · intro hwords
    exact ⟨_, Instruction.decode_of_words_eq hwords .blank, rfl⟩
  · intro command operands hwords hcommand
    exact Instruction.unknown_of_name hwords hcommand
  · intro command tag operands hwords hcommand htag
    exact ⟨_, Instruction.decode_of_words_eq hwords (.unknownTag hcommand htag), rfl⟩
  · intro l hl
    have hwords : Text.words l.text = Text.words text := l.words_text.trans hl
    simp only [Instruction.decode_eq_iff, hwords]
    exact ⟨fun i h => h.respace l.text, fun f h => h.respace_fault l.text⟩

/-- One letter of the command becomes two in upper case. -/
theorem decode_exact_ligature :
    Instruction.decode "rﬅr\u30000 12" = .ok ⟨.rstr, ["0", "12"], "rﬅr\u30000 12"⟩ ∧
    Instruction.decode "jmP " = .error (.malformed .jmp "jmP ") ∧
    (∃ f, Instruction.decode "call 10 3" = .error f ∧ f.kind = .unknownInstruction) ∧
    Instruction.decode Text.Spacing.ragged.text =
      .ok ⟨.imm, ["0", "+7"], Text.Spacing.ragged.text⟩ := by
  obtain ⟨hok, -⟩ := decode_exact "rﬅr\u30000 12"
  obtain ⟨-, hlone, -⟩ := decode_exact "jmP "
  obtain ⟨-, -, -, -, hcall, -⟩ := decode_exact "call 10 3"
  obtain ⟨htidy, -, -, -, -, -, hgaps⟩ := decode_exact "imm 0 +7"
  have hwords : Text.words "rﬅr\u30000 12" = ["rﬅr", "0", "12"] := by decide +kernel
  have himm : Text.words "imm 0 +7" = ["imm", "0", "+7"] := by decide +kernel
  refine ⟨(hok _).mpr ⟨rfl, hwords ▸ .plain _ (by decide +kernel)⟩,
    ((hlone _).mpr ⟨⟨"jmP", by decide +kernel, by decide +kernel⟩, rfl⟩).1,
    hcall "call" ["10", "3"] (by decide +kernel) (by decide +kernel), ?_⟩
  have hdecode := (htidy ⟨.imm, ["0", "+7"], "imm 0 +7"⟩).mpr
    ⟨rfl, himm ▸ .plain _ (by decide +kernel)⟩
  exact (hgaps Text.Spacing.ragged (by decide +kernel)).1 _ hdecode

end TickMachine
