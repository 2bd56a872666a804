import TickMachine.Instruction
import TickMachine.Proofs.Words

namespace TickMachine

namespace Text

def AllBlank (s : String) : Prop := s.toList.all isBlank = true

instance (s : String) : Decidable (AllBlank s) := inferInstanceAs (Decidable (_ = _))

theorem AllBlank.blank {s : String} (h : AllBlank s) : ∀ c ∈ s.toList, isBlank c = true :=
  List.all_eq_true.mp h

theorem allBlank_ofList {cs : List Char} (h : ∀ c ∈ cs, isBlank c = true) :
    AllBlank (String.ofList cs) := by
  rw [AllBlank, String.toList_ofList]
  exact List.all_eq_true.mpr h

/-- A word with the gap in front of it. -/
structure Spaced where
  gap : String
  word : String
  gap_ne_empty : gap ≠ ""
  gap_blank : AllBlank gap
  isWord : IsWord word

/-- A text by its words: the first one, and each of the others behind a gap. The blanks at the two
ends may be missing. -/
structure Spacing where
  lead : String
  first : String
  others : List Spaced
  trail : String
  lead_blank : AllBlank lead
  first_isWord : IsWord first
  trail_blank : AllBlank trail

def Spaced.text (cell : Spaced) : String := cell.gap ++ cell.word

def Spacing.text (l : Spacing) : String :=
  l.lead ++ l.first ++ String.join (l.others.map Spaced.text) ++ l.trail

def Spacing.words (l : Spacing) : List String := l.first :: l.others.map Spaced.word

def laid (cells : List Spaced) (trail : String) : List Char :=
  cells.flatMap (fun cell => cell.text.toList) ++ trail.toList

theorem laid_cons (cell : Spaced) (cells : List Spaced) (trail : String) :
    laid (cell :: cells) trail = cell.gap.toList ++ (cell.word.toList ++ laid cells trail) := by
  simp [laid, Spaced.text]

theorem Spacing.toList_text (l : Spacing) :
    l.text.toList = l.lead.toList ++ (l.first.toList ++ laid l.others l.trail) := by
  simp [text, laid, List.flatMap_map]

section Laid

variable {cells : List Spaced} {trail : String} (htrail : AllBlank trail)
include htrail

theorem ends_laid : Ends (laid cells trail) := by
  cases cells with
  | nil =>
    intro c hc
    exact htrail.blank c (List.mem_of_mem_head? hc)
  | cons cell cells =>
    have hgap : cell.gap.toList ≠ [] := by simpa using cell.gap_ne_empty
    obtain ⟨c, gap, hcons⟩ := List.exists_cons_of_ne_nil hgap
    intro d hd
    rw [laid_cons, hcons] at hd
    obtain rfl : c = d := Option.some.inj hd
    exact cell.gap_blank.blank c (by simp [hcons])

theorem wordsOf_laid : wordsOf (laid cells trail) = cells.map fun cell => cell.word.toList := by
  induction cells with
  | nil =>
    have h := wordsOf_append_of_blank htrail.blank []
    rwa [List.append_nil, wordsOf_nil] at h
  | cons cell cells ih =>
    have hne : cell.word.toList ≠ [] := by simpa using cell.isWord.1
    rw [laid_cons, wordsOf_append_of_blank cell.gap_blank.blank,
      wordsOf_append_of_ends hne cell.isWord.no_blank (ends_laid htrail), ih, List.map_cons]

end Laid

theorem Spacing.words_text (l : Spacing) : Text.words l.text = l.words := by
  have hne : l.first.toList ≠ [] := by simpa using l.first_isWord.1
  rw [Text.words, toList_text, wordsOf_append_of_blank l.lead_blank.blank,
    wordsOf_append_of_ends hne l.first_isWord.no_blank (ends_laid l.trail_blank),
    wordsOf_laid l.trail_blank]
  simp [words, Function.comp_def]

theorem takeWhile_append_firstWord (cs : List Char) :
    cs.takeWhile isBlank ++ (firstWord cs ++ afterFirst cs) = cs := by
  rw [firstWord_append_afterFirst, List.takeWhile_append_dropWhile]

theorem exists_laid {ws : List (List Char)} {cs : List Char} (hws : wordsOf cs = ws)
    (hends : Ends cs) : ∃ cells trail, AllBlank trail ∧ laid cells trail = cs := by
  -- A text that begins with a blank has a gap in front of its first word, and what is left behind
  -- this word begins with a blank again, unless it is empty.
  induction ws generalizing cs with
  | nil =>
    have hfirst : firstWord cs = [] := wordsOf_eq_nil_iff.mp hws
    have hblank : ∀ c ∈ cs, isBlank c = true :=
      List.dropWhile_eq_nil_iff.mp (dropWhile_blank_eq_nil hfirst)
    exact ⟨[], String.ofList cs, allBlank_ofList hblank, by simp [laid]⟩
  | cons w ws ih =>
    have hfirst : firstWord cs ≠ [] := by
      intro hnil
      simp [wordsOf_eq_nil hnil] at hws
    have hrest : wordsOf (afterFirst cs) = ws := by
      rw [wordsOf_eq_cons hfirst] at hws
      exact (List.cons.inj hws).2
    have hgap : cs.takeWhile isBlank ≠ [] := by
      obtain ⟨c, rest, rfl⟩ : ∃ c rest, cs = c :: rest := by
        apply List.exists_cons_of_ne_nil
        rintro rfl
        exact hfirst rfl
      rw [List.takeWhile_cons_of_pos (hends c rfl)]
      exact List.cons_ne_nil _ _
    obtain ⟨cells, trail, htrail, hlaid⟩ := ih hrest (ends_afterFirst cs)
    let cell : Spaced :=
      { gap := String.ofList (cs.takeWhile isBlank)
        word := String.ofList (firstWord cs)
        gap_ne_empty := by simpa using hgap
        gap_blank := allBlank_ofList fun c hc => List.mem_takeWhile_imp hc
        isWord := isWord_ofList hfirst firstWord_no_blank }
    refine ⟨cell :: cells, trail, htrail, ?_⟩
    rw [laid_cons, hlaid, String.toList_ofList, String.toList_ofList]
    exact takeWhile_append_firstWord cs

theorem firstWord_eq_nil_iff (s : String) : firstWord s.toList = [] ↔ AllBlank s := by
  rw [AllBlank, List.all_eq_true, ← List.dropWhile_eq_nil_iff, ← List.head?_eq_none_iff,
    ← List.head?_eq_none_iff, head?_firstWord]

theorem exists_spacing {s : String} (h : ¬ AllBlank s) : ∃ l : Spacing, l.text = s := by
  have hfirst : firstWord s.toList ≠ [] := fun hnil => h ((firstWord_eq_nil_iff s).mp hnil)
  obtain ⟨cells, trail, htrail, hlaid⟩ := exists_laid rfl (ends_afterFirst s.toList)
  refine ⟨⟨String.ofList (s.toList.takeWhile isBlank), String.ofList (firstWord s.toList), cells,
    trail, allBlank_ofList fun c hc => List.mem_takeWhile_imp hc,
    isWord_ofList hfirst firstWord_no_blank, htrail⟩, ?_⟩
  rw [← String.toList_inj, Spacing.toList_text, hlaid, String.toList_ofList, String.toList_ofList]
  exact takeWhile_append_firstWord s.toList

theorem flatten_splitOnP (p : Char → Bool) (cs : List Char) :
    (cs.splitOnP p).flatten = cs.filter (!p ·) := by
  induction cs with
  | nil => rfl
  | cons c cs ih =>
    rw [List.splitOnP_cons_eq_if_modifyHead, List.filter_cons]
    obtain ⟨part, parts, hsplit⟩ := List.exists_cons_of_ne_nil (List.splitOnP_ne_nil p cs)
    cases hc : p c with
    | true => simpa [hc] using ih
    | false =>
      rw [hsplit] at ih ⊢
      simpa [hc] using ih

theorem join_words (s : String) :
    (String.join (words s)).toList = s.toList.filter (!isBlank ·) := by
  rw [String.toList_join, words, List.flatMap_map]
  simp only [String.toList_ofList, List.flatMap_id']
  rw [wordsOf, List.flatten_filter_not_isEmpty, flatten_splitOnP]

theorem words_eq_nil_iff_allBlank (s : String) : words s = [] ↔ AllBlank s := by
  rw [words, List.map_eq_nil_iff, wordsOf_eq_nil_iff, firstWord_eq_nil_iff]

end Text

/-- Splitting finds no command exactly in a text of blanks. In any other text it finds words, one
behind the other with gaps between them, and these are all of the text but its blanks. In whatever
way words are put together with gaps, splitting gives them back. -/
theorem split_tokenizes (text : String) :
    (∀ f, Instruction.split text = .error f ↔
      Text.AllBlank text ∧ f = .unknownInstruction text) ∧
    (¬ Text.AllBlank text → ∃ command operands,
      Instruction.split text = .ok (command, operands) ∧
      (∀ token ∈ command :: operands, Text.IsWord token) ∧
      (String.join (command :: operands)).toList = text.toList.filter (!Text.isBlank ·) ∧
      ∃ l : Text.Spacing, l.text = text ∧ l.words = command :: operands) ∧
    ∀ l : Text.Spacing, l.text = text →
      Instruction.split text = .ok (l.first, l.others.map Text.Spaced.word) := by
  have hspacing (l : Text.Spacing) (hl : l.text = text) :
      Instruction.split text = .ok (l.first, l.others.map Text.Spaced.word) := by
    rw [Instruction.split, ← hl, l.words_text]
    rfl
  refine ⟨?_, ?_, hspacing⟩
  · intro f
    rw [← Text.words_eq_nil_iff_allBlank, Instruction.split]
    cases Text.words text with
    | nil => simp [eq_comm]
    | cons command operands => simp
  · intro hfull
    obtain ⟨l, hl⟩ := Text.exists_spacing hfull
    have hwords : Text.words text = l.words := by rw [← hl, l.words_text]
    refine ⟨l.first, l.others.map Text.Spaced.word, hspacing l hl, ?_, ?_, l, hl, rfl⟩
    · intro token htoken
      apply Text.isWord_of_mem_words (s := text)
      rw [hwords]
      exact htoken
    · rw [← Text.join_words, hwords]
      rfl

def Text.Spacing.ragged : Text.Spacing where
  lead := "\u3000"
  first := "imm"
  others := [⟨"\t", "0", by decide, by decide, by decide⟩,
    ⟨" \u2003\u0085", "+7", by decide, by decide, by decide⟩]
  trail := "\r\n"
  lead_blank := by decide
  first_isWord := by decide
  trail_blank := by decide

theorem split_tokenizes_ragged :
    Instruction.split "\u3000imm\t0 \u2003\u0085+7\r\n" = .ok ("imm", ["0", "+7"]) ∧
    (∃ command operands, Instruction.split ".a\u001cb" = .ok (command, operands) ∧
      (String.join (command :: operands)).toList = ['.', 'a', 'b']) ∧
    Instruction.split " \u000b" = .error (.unknownInstruction " \u000b") := by
  obtain ⟨-, hfull, -⟩ := split_tokenizes ".a\u001cb"
  obtain ⟨command, operands, hsplit, -, hjoin, -⟩ := hfull (by decide)
  refine ⟨(split_tokenizes _).2.2 Text.Spacing.ragged (by decide),
    ⟨command, operands, hsplit, hjoin⟩,
    ((split_tokenizes _).1 _).mpr ⟨by decide, rfl⟩⟩

end TickMachine
