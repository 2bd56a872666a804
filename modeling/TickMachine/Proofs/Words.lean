import Mathlib.Data.List.DropRight
import TickMachine.Program

namespace TickMachine.Text

variable {c : Char} {cs w rest : List Char}

theorem wordsOf_append_of_blank {blanks : List Char} (hb : ∀ c ∈ blanks, isBlank c = true)
    (cs : List Char) : wordsOf (blanks ++ cs) = wordsOf cs := by
  induction blanks with
  | nil => rfl
  | cons c blanks ih =>
    rw [List.cons_append, wordsOf_cons_blank (hb c List.mem_cons_self)]
    exact ih fun d hd => hb d (List.mem_cons_of_mem c hd)

theorem wordsOf_dropWhile_blank (cs : List Char) :
    wordsOf (cs.dropWhile isBlank) = wordsOf cs := by
  have hblank : ∀ c ∈ cs.takeWhile isBlank, isBlank c = true := fun c hc =>
    List.mem_takeWhile_imp hc
  have h := wordsOf_append_of_blank hblank (cs.dropWhile isBlank)
  rw [List.takeWhile_append_dropWhile] at h
  exact h.symm

theorem wordsOf_rdropWhile_blank (cs : List Char) :
    wordsOf (cs.rdropWhile isBlank) = wordsOf cs := by
  induction cs using List.reverseRecOn with
  | nil => rfl
  | append_singleton cs c ih =>
    cases hc : isBlank c with
    | true =>
      rw [List.rdropWhile_concat_pos _ _ _ hc, ih, wordsOf_append_blank hc, wordsOf_nil,
        List.append_nil]
    | false => rw [List.rdropWhile_concat_neg _ _ _ (by simp [hc])]

theorem wordsOf_trimBlanks (cs : List Char) : wordsOf (trimBlanks cs) = wordsOf cs :=
  (wordsOf_rdropWhile_blank (cs.dropWhile isBlank)).trans (wordsOf_dropWhile_blank cs)

theorem words_trim (s : String) : words (trim s) = words s := by
  rw [words, trim, String.toList_ofList, wordsOf_trimBlanks, words]

/-- A word is not empty and contains no blank. -/
def IsWord (s : String) : Prop := s ≠ "" ∧ s.toList.all (!isBlank ·) = true

instance (s : String) : Decidable (IsWord s) := inferInstanceAs (Decidable (_ ∧ _))

theorem IsWord.no_blank {s : String} (h : IsWord s) : ∀ c ∈ s.toList, isBlank c = false := by
  intro c hc
  simpa using List.all_eq_true.mp h.2 c hc

theorem isWord_ofList (hne : w ≠ []) (h : ∀ c ∈ w, isBlank c = false) :
    IsWord (String.ofList w) := by
  refine ⟨?_, ?_⟩
  · intro hempty
    exact hne (by simpa using congrArg String.toList hempty)
  · rw [String.toList_ofList, List.all_eq_true]
    intro c hc
    simp [h c hc]

theorem IsWord.trim_eq {s : String} (h : IsWord s) : trim s = s := by
  have hfront : s.toList.dropWhile isBlank = s.toList := by
    rw [List.dropWhile_eq_self_iff]
    intro hlt
    simp [h.no_blank _ (List.getElem_mem hlt)]
  have hback : s.toList.rdropWhile isBlank = s.toList := by
    rw [List.rdropWhile_eq_self_iff]
    intro hne
    simp [h.no_blank _ (List.getLast_mem hne)]
  change String.ofList ((s.toList.dropWhile isBlank).rdropWhile isBlank) = s
  rw [hfront, hback, String.ofList_toList]

theorem trimBlanks_concat (hc : isBlank c = true) (cs : List Char) :
    trimBlanks (cs ++ [c]) = trimBlanks cs := by
  change ((cs ++ [c]).dropWhile isBlank).rdropWhile isBlank =
    (cs.dropWhile isBlank).rdropWhile isBlank
  rw [List.dropWhile_append]
  cases hbody : cs.dropWhile isBlank with
  | nil => simp [hc]
  | cons d body => exact List.rdropWhile_concat_pos _ (d :: body) c hc

/-- A word ends where the text ends or a blank stands. -/
def Ends (rest : List Char) : Prop := ∀ c ∈ rest.head?, isBlank c = true

theorem wordsOf_append_of_ends (hne : w ≠ []) (hw : ∀ c ∈ w, isBlank c = false)
    (hrest : Ends rest) : wordsOf (w ++ rest) = w :: wordsOf rest := by
  cases rest with
  | nil => rw [List.append_nil, wordsOf_of_no_blank hne hw, wordsOf_nil]
  | cons c rest =>
    have hc : isBlank c = true := hrest c rfl
    rw [wordsOf_append_blank hc, wordsOf_of_no_blank hne hw, wordsOf_cons_blank hc]
    rfl

def firstWord (cs : List Char) : List Char := (cs.dropWhile isBlank).takeWhile (!isBlank ·)

def afterFirst (cs : List Char) : List Char := (cs.dropWhile isBlank).dropWhile (!isBlank ·)

theorem firstWord_no_blank : ∀ c ∈ firstWord cs, isBlank c = false := by
  intro c hc
  simpa using List.mem_takeWhile_imp hc

theorem ends_afterFirst (cs : List Char) : Ends (afterFirst cs) := by
  intro c hc
  have h := List.head?_dropWhile_not (!isBlank ·) (cs.dropWhile isBlank)
  rw [← afterFirst, Option.mem_def.mp hc] at h
  simpa using h

theorem firstWord_append_afterFirst (cs : List Char) :
    firstWord cs ++ afterFirst cs = cs.dropWhile isBlank := List.takeWhile_append_dropWhile

theorem head?_firstWord (cs : List Char) : (firstWord cs).head? = (cs.dropWhile isBlank).head? := by
  have h := List.head?_dropWhile_not isBlank cs
  unfold firstWord
  cases hbody : cs.dropWhile isBlank with
  | nil => rfl
  | cons c body =>
    have hc : isBlank c = false := by simpa [hbody] using h
    rw [List.takeWhile_cons_of_pos (by simp [hc])]
    rfl

theorem wordsOf_eq_cons (hne : firstWord cs ≠ []) :
    wordsOf cs = firstWord cs :: wordsOf (afterFirst cs) := by
  rw [← wordsOf_dropWhile_blank, ← firstWord_append_afterFirst,
    wordsOf_append_of_ends hne firstWord_no_blank (ends_afterFirst cs)]

theorem dropWhile_blank_eq_nil (h : firstWord cs = []) : cs.dropWhile isBlank = [] := by
  have hhead := head?_firstWord cs
  rw [h] at hhead
  exact List.head?_eq_none_iff.mp hhead.symm

theorem wordsOf_eq_nil (h : firstWord cs = []) : wordsOf cs = [] := by
  rw [← wordsOf_dropWhile_blank, dropWhile_blank_eq_nil h, wordsOf_nil]

theorem head?_wordsOf (cs : List Char) :
    (wordsOf cs).head?.bind List.head? = (cs.dropWhile isBlank).head? := by
  rw [← head?_firstWord]
  by_cases h : firstWord cs = []
  · rw [wordsOf_eq_nil h, h]
    rfl
  · rw [wordsOf_eq_cons h]
    rfl

theorem head?_trimBlanks (cs : List Char) :
    (trimBlanks cs).head? = (cs.dropWhile isBlank).head? := by
  have h := List.head?_dropWhile_not isBlank cs
  have hpre : trimBlanks cs <+: cs.dropWhile isBlank := List.rdropWhile_prefix isBlank _
  cases hbody : cs.dropWhile isBlank with
  | nil =>
    rw [hbody, List.prefix_nil] at hpre
    rw [hpre]
  | cons c body =>
    have hc : isBlank c = false := by simpa [hbody] using h
    have hne : trimBlanks cs ≠ [] := by
      intro hnil
      have hall := List.rdropWhile_eq_nil_iff.mp hnil c (by simp [hbody])
      rw [hc] at hall
      cases hall
    obtain ⟨d, rest, htrim⟩ := List.exists_cons_of_ne_nil hne
    rw [hbody, htrim, List.cons_prefix_cons] at hpre
    rw [htrim, hpre.1]
    rfl

theorem head?_trim (s : String) :
    (trim s).toList.head? = (words s).head?.bind fun word => word.toList.head? := by
  rw [trim, String.toList_ofList, head?_trimBlanks, ← head?_wordsOf, words, List.head?_map]
  cases (wordsOf s.toList).head? <;> simp

theorem wordsOf_eq_nil_iff : wordsOf cs = [] ↔ firstWord cs = [] := by
  refine ⟨fun h => ?_, wordsOf_eq_nil⟩
  by_contra hne
  rw [wordsOf_eq_cons hne] at h
  cases h

theorem words_eq_nil_iff (s : String) : words s = [] ↔ trim s = "" := by
  have htrim : trim s = "" ↔ trimBlanks s.toList = [] := by
    rw [trim, ← String.toList_inj, String.toList_ofList]
    rfl
  rw [words, List.map_eq_nil_iff, wordsOf_eq_nil_iff, htrim, ← List.head?_eq_none_iff,
    head?_firstWord, ← head?_trimBlanks, List.head?_eq_none_iff]

theorem not_of_mem_splitOnP {p : Char → Bool} {part : List Char} (h : part ∈ cs.splitOnP p) :
    ∀ c ∈ part, p c = false := by
  induction cs generalizing part with
  | nil =>
    obtain rfl : part = [] := by simpa using h
    exact List.forall_mem_nil _
  | cons c cs ih =>
    rw [List.splitOnP_cons_eq_if_modifyHead] at h
    obtain ⟨first, others, hsplit⟩ := List.exists_cons_of_ne_nil (List.splitOnP_ne_nil p cs)
    rw [hsplit] at h ih
    split at h
    · obtain rfl | hmem := List.mem_cons.mp h
      · exact List.forall_mem_nil _
      · exact ih hmem
    · rename_i hne
      obtain rfl | hmem := List.mem_cons.mp h
      · exact List.forall_mem_cons.mpr ⟨by simpa using hne, ih List.mem_cons_self⟩
      · exact ih (List.mem_cons_of_mem first hmem)

theorem not_mem_of_mem_splitOn {sep : Char} {part : List Char} (h : part ∈ cs.splitOn sep) :
    sep ∉ part := by
  intro hmem
  rw [List.splitOn_eq_splitOnP] at h
  simpa using not_of_mem_splitOnP h sep hmem

theorem isWord_of_mem_words {s word : String} (h : word ∈ words s) : IsWord word := by
  obtain ⟨w, hw, rfl⟩ := List.mem_map.mp h
  obtain ⟨hsplit, hne⟩ := List.mem_filter.mp hw
  exact isWord_ofList (by simpa using hne) (not_of_mem_splitOnP hsplit)

theorem newline_not_mem_line {s line : String} (h : line ∈ lines s) : '\n' ∉ line.toList := by
  obtain ⟨part, hpart, rfl⟩ := List.mem_map.mp h
  rw [String.toList_ofList]
  exact not_mem_of_mem_splitOn hpart

theorem lines_ne_nil (s : String) : lines s ≠ [] := by
  simp [lines, List.splitOn_ne_nil]

theorem lines_intercalate {ls : List String} (hne : ls ≠ [])
    (h : ∀ line ∈ ls, '\n' ∉ line.toList) : lines ("\n".intercalate ls) = ls := by
  have hparts : ∀ part ∈ ls.map String.toList, '\n' ∉ part := by
    intro part hpart
    obtain ⟨line, hline, rfl⟩ := List.mem_map.mp hpart
    exact h line hline
  have hjoined : ("\n".intercalate ls).toList = ['\n'].intercalate (ls.map String.toList) := by
    rw [String.toList_intercalate]
    rfl
  rw [lines, hjoined, List.splitOn_intercalate '\n' hparts (by simpa using hne), List.map_map]
  simp [Function.comp_def]

theorem intercalate_lines (s : String) : "\n".intercalate (lines s) = s := by
  have hparts : (lines s).map String.toList = s.toList.splitOn '\n' := by
    simp [lines, Function.comp_def]
  rw [← String.toList_inj, String.toList_intercalate, hparts]
  exact List.intercalate_splitOn '\n'

theorem length_splitOn (sep : Char) (cs : List Char) :
    (cs.splitOn sep).length = cs.count sep + 1 := by
  induction cs with
  | nil => rfl
  | cons c cs ih =>
    rw [List.splitOn_cons_eq_if_modifyHead, List.count_cons]
    split
    · rw [List.length_cons, ih]
    · rw [List.length_modifyHead, ih, Nat.add_zero]

theorem length_lines (s : String) : (lines s).length = s.toList.count '\n' + 1 := by
  rw [lines, List.length_map, length_splitOn]

end TickMachine.Text

namespace TickMachine.Line

theorem isLabel_trim_congr {a b : String} (h : (Text.words a).head? = (Text.words b).head?) :
    isLabel (Text.trim a) = isLabel (Text.trim b) := by
  rw [isLabel, isLabel, Text.head?_trim, Text.head?_trim, h]

end TickMachine.Line
