import TickMachine.Proofs.Labels
import TickMachine.Proofs.Lockstep
import TickMachine.Proofs.Words

namespace TickMachine

namespace Text

/-- Two texts that differ at most in the case of ASCII letters. -/
def SameLetters (s t : String) : Prop := s.toList.map Char.toLower = t.toList.map Char.toLower

instance (s t : String) : Decidable (SameLetters s t) := inferInstanceAs (Decidable (_ = _))

theorem upperChar_toLower (c : Char) : upperChar c.toLower = upperChar c := by
  by_cases hu : 65 ≤ c.toNat ∧ c.toNat ≤ 90
  · have hletters : ∀ k < 26,
        upperChar (Char.ofNat (65 + k)).toLower = upperChar (Char.ofNat (65 + k)) := by decide
    have hc : Char.ofNat (65 + (c.toNat - 65)) = c := by
      rw [Nat.add_sub_cancel' hu.1, Char.ofNat_toNat]
    have h := hletters (c.toNat - 65) (by omega)
    rwa [hc] at h
  · have hsame : c.toLower = c := by
      unfold Char.toLower
      rw [dif_neg]
      simpa [UInt32.le_iff_toNat_le] using hu
    rw [hsame]

theorem upper_of_sameLetters {s t : String} (h : SameLetters s t) : upper s = upper t := by
  have hlower : ∀ cs : List Char,
      cs.flatMap upperChar = (cs.map Char.toLower).flatMap upperChar := by
    intro cs
    rw [List.flatMap_map]
    simp only [upperChar_toLower]
  rw [upper, upper, hlower s.toList, hlower t.toList, h]

end Text

namespace Instruction

theorem decode_of_words {a b command command' : String} {operands : List String}
    (ha : Text.words a = command :: operands) (hb : Text.words b = command' :: operands)
    (hc : Text.upper command = Text.upper command') :
    (∃ f g, decode a = .error f ∧ decode b = .error g ∧ f.kind = g.kind) ∨
      ∃ i j, decode a = .ok i ∧ decode b = .ok j ∧ i.SameButText j := by
  unfold decode split
  simp only [ha, hb, hc]
  split
  · cases operands with
    | nil => exact .inl ⟨_, _, rfl, rfl, rfl⟩
    | cons tag operands =>
      simp only [decodeJump]
      cases Op.ofTag? tag with
      | none => exact .inl ⟨_, _, rfl, rfl, rfl⟩
      | some op => exact .inr ⟨_, _, rfl, rfl, rfl, rfl⟩
  · cases Op.ofCommand? (Text.upper command') with
    | none => exact .inl ⟨_, _, rfl, rfl, rfl⟩
    | some op => exact .inr ⟨_, _, rfl, rfl, rfl, rfl⟩

end Instruction

namespace Line

/-- Two lines with the same content: both are blank, or they declare the same label, or they are
statements with the same operands and with commands that differ at most in case. -/
inductive SameContent (a b : String) : Prop where
  | blank (ha : Text.trim a = "") (hb : Text.trim b = "")
  | label (h : Text.trim a = Text.trim b) (hl : isLabel (Text.trim a) = true)
  | statement (command command' : String) (operands : List String)
      (ha : isLabel (Text.trim a) = false) (hb : isLabel (Text.trim b) = false)
      (hwa : Text.words a = command :: operands) (hwb : Text.words b = command' :: operands)
      (hc : Text.SameLetters command command')

variable {a b : String}

theorem SameContent.label? (h : SameContent a b) : label? a = label? b := by
  unfold Line.label?
  cases h with
  | blank ha hb => rw [ha, hb]
  | label h _ => rw [h]
  | statement _ _ _ ha hb => simp [ha, hb]

theorem SameContent.outcome {p q : Program} (h : SameContent a b) (hl : p.labels = q.labels)
    (m : Machine) :
    Except.Alike (p.outcome (Text.trim a) m) (q.outcome (Text.trim b) m) := by
  unfold Program.outcome
  cases h with
  | blank ha hb =>
    rw [if_pos (.inl ha), if_pos (.inl hb)]
    exact .ok none
  | label h hm =>
    rw [← h, if_pos (.inr hm), if_pos (.inr hm)]
    exact .ok none
  | statement command command' operands ha hb hwa hwb hc =>
    have hna : ¬ (Text.trim a = "" ∨ isLabel (Text.trim a) = true) := by
      simp [ha, ← Text.words_eq_nil_iff, hwa]
    have hnb : ¬ (Text.trim b = "" ∨ isLabel (Text.trim b) = true) := by
      simp [hb, ← Text.words_eq_nil_iff, hwb]
    rw [if_neg hna, if_neg hnb]
    rw [← Text.words_trim] at hwa hwb
    obtain ⟨f, g, hda, hdb, hkind⟩ | ⟨i, j, hda, hdb, hij⟩ :=
      Instruction.decode_of_words hwa hwb (Text.upper_of_sameLetters hc)
    · rw [hda, hdb]
      exact .error (congrArg TrapKind.fault hkind)
    · rw [hda, hdb]
      exact (hij.effect hl m).map some

end Line

/-- Sources with the same content, line by line, have the same labels and run in lockstep. -/
theorem lockstep_of_same_content (source source' : String)
    (h : List.Forall₂ Line.SameContent (Text.lines source) (Text.lines source')) :
    (Program.parse source).Lockstep (Program.parse source') := by
  have hlabels : (Program.parse source).labels = (Program.parse source').labels :=
    Program.labels_congr (h.imp fun _ _ hab => hab.label?)
  have halike : (Program.parse source).Alike (Program.parse source') := by
    refine ⟨hlabels, h.imp ?_⟩
    intro a b hab m
    exact hab.outcome hlabels m
  exact halike.lockstep

def raggedSource : String :=
  "\u3000imm\t0 \u20037\r\n  .again\t\n \u000b\njMp 10 again\u0085\nnot"

def tidySource : String := "IMM 0 7\n.again\n\nJMP 10 again\nNot"

theorem lockstep_of_same_content_ragged :
    List.Forall₂ Line.SameContent (Text.lines raggedSource) (Text.lines tidySource) ∧
      (Program.parse raggedSource).Lockstep (Program.parse tidySource) := by
  have hragged : Text.lines raggedSource =
      ["\u3000imm\t0 \u20037\r", "  .again\t", " \u000b", "jMp 10 again\u0085", "not"] := by
    decide +kernel
  have htidy : Text.lines tidySource = ["IMM 0 7", ".again", "", "JMP 10 again", "Not"] := by
    decide +kernel
  have hstatement : ∀ (a b command command' : String) (operands : List String),
      Line.isLabel (Text.trim a) = false ∧ Line.isLabel (Text.trim b) = false ∧
        Text.words a = command :: operands ∧ Text.words b = command' :: operands ∧
        Text.SameLetters command command' → Line.SameContent a b := by
    rintro a b command command' operands ⟨ha, hb, hwa, hwb, hc⟩
    exact .statement command command' operands ha hb hwa hwb hc
  have hsame : List.Forall₂ Line.SameContent (Text.lines raggedSource) (Text.lines tidySource) := by
    rw [hragged, htidy]
    refine .cons ?_ (.cons ?_ (.cons ?_ (.cons ?_ (.cons ?_ .nil))))
    · exact hstatement _ _ "imm" "IMM" ["0", "7"] (by decide +kernel)
    · exact .label (by decide +kernel) (by decide +kernel)
    · exact .blank (by decide +kernel) (by decide +kernel)
    · exact hstatement _ _ "jMp" "JMP" ["10", "again"] (by decide +kernel)
    · exact hstatement _ _ "not" "Not" [] (by decide +kernel)
  exact ⟨hsame, lockstep_of_same_content raggedSource tidySource hsame⟩

end TickMachine
