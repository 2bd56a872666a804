import Mathlib.Data.List.Forall2
import Mathlib.Data.List.Induction
import TickMachine.Program

namespace TickMachine

theorem mem_of_lookup {α : Type} {table : List (String × α)} {key : String} {a : α}
    (h : table.lookup key = some a) : (key, a) ∈ table := by
  obtain ⟨before, after, htable, -⟩ := List.lookup_eq_some_iff.mp h
  rw [htable]
  simp

theorem LabelTable.mem_entries_declare {t : LabelTable} {name : String} {index : Nat}
    {entry : String × Nat} :
    entry ∈ (t.declare name index).entries ↔
      entry = (name, index) ∨ entry ∈ t.entries ∧ entry.1 ≠ name := by
  unfold declare
  split
  · rename_i hfound
    obtain ⟨old, hold⟩ := Option.isSome_iff_exists.mp hfound
    rw [List.mem_map]
    constructor
    · rintro ⟨entry, hentry, rfl⟩
      by_cases hname : entry.1 = name
      · exact .inl (if_pos hname)
      · rw [if_neg hname]
        exact .inr ⟨hentry, hname⟩
    · rintro (rfl | ⟨hentry, hname⟩)
      · exact ⟨(name, old), mem_of_lookup hold, if_pos rfl⟩
      · exact ⟨entry, hentry, if_neg hname⟩
  · rename_i hnone
    have hother : ∀ entry ∈ t.entries, entry.1 ≠ name := by
      intro entry hentry
      have hne := List.lookup_eq_none_iff.mp (Option.not_isSome_iff_eq_none.mp hnone) entry hentry
      exact fun heq => by simp [heq] at hne
    rw [List.mem_append, List.mem_singleton]
    constructor
    · rintro (hentry | rfl)
      · exact .inr ⟨hentry, hother entry hentry⟩
      · exact .inl rfl
    · rintro (rfl | ⟨hentry, -⟩)
      · exact .inr rfl
      · exact .inl hentry

namespace Program

theorem Survey.addLine_congr {a b : String} (h : Line.label? a = Line.label? b) (s : Survey)
    (index : Nat) : s.addLine (a, index) = s.addLine (b, index) := by
  simp only [addLine, h]

theorem survey_congr {as bs : List String}
    (h : List.Forall₂ (fun a b => Line.label? a = Line.label? b) as bs) :
    survey as = survey bs := by
  have hfrom : ∀ start s, (as.zipIdx start).foldl Survey.addLine s =
      (bs.zipIdx start).foldl Survey.addLine s := by
    induction h with
    | nil =>
      intro start s
      rfl
    | cons hab _ ih =>
      intro start s
      rw [List.zipIdx_cons, List.zipIdx_cons, List.foldl_cons, List.foldl_cons,
        Survey.addLine_congr hab]
      exact ih (start + 1) _
  exact hfrom 0 _

theorem lines_parse (source : String) : (parse source).lines = Text.lines source := rfl

theorem labels_congr {source source' : String}
    (h : List.Forall₂ (fun a b => Line.label? a = Line.label? b) (Text.lines source)
      (Text.lines source')) : (parse source).labels = (parse source').labels := by
  simp only [parse, survey_congr h]

theorem survey_concat (lines : List String) (line : String) :
    survey (lines ++ [line]) = (survey lines).addLine (line, lines.length) := by
  simp [survey, List.zipIdx_append]

theorem line_of_mem_survey {lines : List String} {name : String} {index : Nat}
    (h : (name, index) ∈ (survey lines).table.entries) :
    ∃ line, lines[index]? = some line ∧ Line.label? line = some name := by
  -- The last line first: the lines above it keep their indices.
  induction lines using List.reverseRecOn with
  | nil => cases h
  | append_singleton lines line ih =>
    have hearlier (hmem : (name, index) ∈ (survey lines).table.entries) :
        ∃ line', (lines ++ [line])[index]? = some line' ∧ Line.label? line' = some name := by
      obtain ⟨line', hline', hname⟩ := ih hmem
      have hlt : index < lines.length := (List.getElem?_eq_some_iff.mp hline').1
      exact ⟨line', by rw [List.getElem?_append_left hlt, hline'], hname⟩
    rw [survey_concat, Survey.addLine] at h
    cases hlabel : Line.label? line with
    | none =>
      simp only [hlabel] at h
      exact hearlier h
    | some declared =>
      simp only [hlabel] at h
      obtain heq | ⟨hmem, -⟩ := LabelTable.mem_entries_declare.mp h
      · cases heq
        exact ⟨line, by simp, hlabel⟩
      · exact hearlier hmem

theorem line_of_find? {source name : String} {index : Nat}
    (h : (parse source).labels.find? name = some index) :
    ∃ line, (Text.lines source)[index]? = some line ∧ Line.label? line = some name :=
  line_of_mem_survey (mem_of_lookup h)

end Program
end TickMachine
