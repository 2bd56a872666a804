import Mathlib.Order.Bounds.Basic
import Mathlib.Order.WellFounded
import TickMachine.Proofs.Labels
import TickMachine.Proofs.Words

namespace TickMachine

theorem Line.label?_eq_some_iff {line name : String} :
    label? line = some name ↔ Text.trim line = "." ++ name := by
  have hspell : Text.trim line = "." ++ name ↔
      (Text.trim line).toList = Hardware.labelMarker :: name.toList := by
    rw [← String.toList_inj, String.toList_append]
    rfl
  rw [hspell, label?, isLabel, labelName]
  cases (Text.trim line).toList with
  | nil => simp
  | cons c rest =>
    by_cases hc : c = Hardware.labelMarker
    · simp [hc, ← String.toList_inj]
    · simp [hc]

namespace LabelTable

def names (t : LabelTable) : List String := t.entries.map Prod.fst

theorem names_declare (t : LabelTable) (name : String) (index : Nat) :
    (t.declare name index).names =
      if (t.find? name).isSome then t.names else t.names ++ [name] := by
  unfold names declare
  split
  · rw [List.map_map]
    apply List.map_congr_left
    intro entry _
    simp only [Function.comp_apply]
    split
    · rename_i hname
      exact hname.symm
    · rfl
  · simp

theorem find?_eq_none_iff {t : LabelTable} {name : String} :
    t.find? name = none ↔ name ∉ t.names := by
  rw [find?, List.lookup_eq_none_iff, names, List.mem_map]
  constructor
  · rintro hnone ⟨entry, hentry, rfl⟩
    simpa using hnone entry hentry
  · intro hnone entry hentry
    simpa using fun heq => hnone ⟨entry, hentry, heq.symm⟩

theorem mem_names_declare {t : LabelTable} {name other : String} {index : Nat} :
    other ∈ (t.declare name index).names ↔ other ∈ t.names ∨ other = name := by
  rw [names_declare]
  split
  · rename_i hfound
    have hname : name ∈ t.names := by
      by_contra hnone
      rw [find?_eq_none_iff.mpr hnone] at hfound
      cases hfound
    exact ⟨.inl, fun h => h.elim id fun heq => heq ▸ hname⟩
  · rw [List.mem_append, List.mem_singleton]

end LabelTable

/-- Where each label is declared. -/
abbrev Declared := String → Set Nat

namespace Declared

variable {d : Declared} {name other : String} {index k : Nat}

def add (d : Declared) (name : String) (index : Nat) : Declared := fun other =>
  {k | k ∈ d other ∨ other = name ∧ k = index}

def Below (d : Declared) (index : Nat) : Prop := ∀ name, ∀ k ∈ d name, k < index

def Before (d : Declared) (a b : String) : Prop :=
  ∃ j k, IsLeast (d a) j ∧ IsLeast (d b) k ∧ j < k

def above (d : Declared) (name : String) (index : Nat) : Set Nat := {k ∈ d name | k < index}

theorem above_of_below (hbelow : d.Below index) : d.above name index = d name := by
  ext k
  exact ⟨And.left, fun hk => ⟨hk, hbelow name k hk⟩⟩

theorem above_add (h : k ≤ index) : (d.add name index).above other k = d.above other k := by
  ext j
  constructor
  · rintro ⟨hj | ⟨-, rfl⟩, hlt⟩
    · exact ⟨hj, hlt⟩
    · exact absurd hlt (Nat.not_lt.mpr h)
  · rintro ⟨hj, hlt⟩
    exact ⟨.inl hj, hlt⟩

theorem add_of_ne (h : other ≠ name) : d.add name index other = d other := by
  ext k
  simp [add, h]

theorem isGreatest_add (hbelow : d.Below index) : IsGreatest (d.add name index name) index := by
  refine ⟨.inr ⟨rfl, rfl⟩, ?_⟩
  rintro k (hk | ⟨-, rfl⟩)
  · exact Nat.le_of_lt (hbelow name k hk)
  · exact Nat.le_refl k

theorem isLeast_add (hbelow : d.Below index) (h : IsLeast (d other) k) :
    IsLeast (d.add name index other) k := by
  refine ⟨.inl h.1, ?_⟩
  rintro j (hj | ⟨-, rfl⟩)
  · exact h.2 hj
  · exact Nat.le_of_lt (hbelow other k h.1)

theorem Before.add {a b : String} (h : d.Before a b) (hbelow : d.Below index) :
    (d.add name index).Before a b := by
  obtain ⟨j, k, hj, hk, hlt⟩ := h
  exact ⟨j, k, isLeast_add hbelow hj, isLeast_add hbelow hk, hlt⟩

theorem before_add_of_new (hbelow : d.Below index) (hold : (d other).Nonempty)
    (hnew : ¬ (d name).Nonempty) : (d.add name index).Before other name := by
  obtain ⟨j, hj, hmin⟩ := WellFounded.has_min Nat.lt_wfRel.wf (d other) hold
  have hleast : IsLeast (d other) j := ⟨hj, fun k hk => Nat.le_of_not_lt (hmin k hk)⟩
  refine ⟨j, index, isLeast_add hbelow hleast, ⟨.inr ⟨rfl, rfl⟩, ?_⟩, hbelow other j hj⟩
  rintro k (hk | ⟨-, rfl⟩)
  · exact absurd ⟨k, hk⟩ hnew
  · exact Nat.le_refl k

end Declared

/-- A label that is declared again, with the indices of both lines. -/
structure Redeclaration where
  name : String
  old : Nat
  new : Nat

namespace Redeclaration

variable {d : Declared} {name : String} {index : Nat} {r : Redeclaration}

def record (r : Redeclaration) : Record := Program.redeclaredRecord r.name r.new r.old

/-- Both lines declare the label, and no line between them does. -/
def Occurs (r : Redeclaration) (d : Declared) : Prop :=
  r.new ∈ d r.name ∧ IsGreatest (d.above r.name r.new) r.old

/-- Another declaration makes at most one more redeclaration, its own. -/
theorem occurs_add (hbelow : d.Below index) :
    r.Occurs (d.add name index) ↔
      r.Occurs d ∨ r.name = name ∧ r.new = index ∧ IsGreatest (d name) r.old := by
  constructor
  · rintro ⟨hnew | ⟨hname, hindex⟩, hold⟩
    · rw [Declared.above_add (Nat.le_of_lt (hbelow r.name r.new hnew))] at hold
      exact .inl ⟨hnew, hold⟩
    · rw [hindex, hname, Declared.above_add (Nat.le_refl index), Declared.above_of_below hbelow]
        at hold
      exact .inr ⟨hname, hindex, hold⟩
  · rintro (⟨hnew, hold⟩ | ⟨hname, hindex, hold⟩)
    · refine ⟨.inl hnew, ?_⟩
      rwa [Declared.above_add (Nat.le_of_lt (hbelow r.name r.new hnew))]
    · refine ⟨.inr ⟨hname, hindex⟩, ?_⟩
      rwa [hindex, hname, Declared.above_add (Nat.le_refl index), Declared.above_of_below hbelow]

end Redeclaration

namespace Program

/-- The lines that declare a label: blanks around it left out, such a line is a dot and the name. -/
def declarations (lines : List String) : Declared := fun name =>
  {k | ∃ line, lines[k]? = some line ∧ Text.trim line = "." ++ name}

variable {lines : List String} {line name : String} {index : Nat} {d : Declared} {s : Survey}

theorem below_declarations (lines : List String) : (declarations lines).Below lines.length := by
  rintro name k ⟨line, hline, -⟩
  exact (List.getElem?_eq_some_iff.mp hline).1

theorem nonempty_declarations_iff :
    (declarations lines name).Nonempty ↔ ∃ line ∈ lines, Text.trim line = "." ++ name := by
  constructor
  · rintro ⟨k, line, hline, hname⟩
    exact ⟨line, List.mem_of_getElem? hline, hname⟩
  · rintro ⟨line, hline, hname⟩
    obtain ⟨k, hk⟩ := List.getElem?_of_mem hline
    exact ⟨k, line, hk, hname⟩

theorem mem_declarations_concat {k : Nat} :
    k ∈ declarations (lines ++ [line]) name ↔
      k ∈ declarations lines name ∨ k = lines.length ∧ Text.trim line = "." ++ name := by
  constructor
  · rintro ⟨other, hline, hname⟩
    obtain hlt | hge := Nat.lt_or_ge k lines.length
    · rw [List.getElem?_append_left hlt] at hline
      exact .inl ⟨other, hline, hname⟩
    · rw [List.getElem?_append_right hge, List.getElem?_singleton] at hline
      split at hline
      · cases hline
        exact .inr ⟨by omega, hname⟩
      · cases hline
  · rintro (⟨other, hline, hname⟩ | ⟨rfl, hname⟩)
    · have hlt := (List.getElem?_eq_some_iff.mp hline).1
      exact ⟨other, by rw [List.getElem?_append_left hlt, hline], hname⟩
    · exact ⟨line, by simp, hname⟩

theorem declarations_concat_of_label (h : Line.label? line = some name) :
    declarations (lines ++ [line]) = (declarations lines).add name lines.length := by
  funext other
  ext k
  rw [mem_declarations_concat, ← Line.label?_eq_some_iff, h, Option.some.injEq, and_comm, eq_comm]
  rfl

theorem declarations_concat_of_no_label (h : Line.label? line = none) :
    declarations (lines ++ [line]) = declarations lines := by
  funext other
  ext k
  rw [mem_declarations_concat, ← Line.label?_eq_some_iff, h]
  simp

/-- What a survey knows of the declarations that it has met. -/
structure Survey.Covers (s : Survey) (d : Declared) : Prop where
  names : ∀ name, name ∈ s.table.names ↔ (d name).Nonempty
  entries : ∀ name index, (name, index) ∈ s.table.entries ↔ IsGreatest (d name) index
  order : s.table.names.Pairwise d.Before
  warnings : ∃ rs : List Redeclaration, rs.Pairwise (·.new < ·.new) ∧ (∀ r, r ∈ rs ↔ r.Occurs d) ∧
    s.records.reverse.filter (·.level = .warning) = rs.map Redeclaration.record

namespace Survey

theorem Covers.find?_eq_some_iff (h : s.Covers d) :
    s.table.find? name = some index ↔ IsGreatest (d name) index := by
  rw [← h.entries]
  constructor
  · exact mem_of_lookup
  · intro hmem
    cases hfound : s.table.find? name with
    | none =>
      have hname : name ∈ s.table.names := List.mem_map.mpr ⟨(name, index), hmem, rfl⟩
      exact absurd hname (LabelTable.find?_eq_none_iff.mp hfound)
    | some found =>
      have hlast := (h.entries name found).mp (mem_of_lookup hfound)
      rw [hlast.unique ((h.entries name index).mp hmem)]

section Declare

variable (h : s.Covers d) (hbelow : d.Below index)
include h hbelow

theorem entries_declare (other : String) (k : Nat) :
    (other, k) ∈ (s.table.declare name index).entries ↔
      IsGreatest (d.add name index other) k := by
  rw [LabelTable.mem_entries_declare, Prod.mk.injEq]
  by_cases hname : other = name
  · subst hname
    have hlast : IsGreatest (d.add other index other) index := Declared.isGreatest_add hbelow
    simp only [true_and, ne_eq, not_true_eq_false, and_false, or_false]
    exact ⟨fun hk => hk ▸ hlast, fun hk => hk.unique hlast⟩
  · simp only [hname, false_and, false_or, ne_eq, not_false_eq_true, and_true, h.entries,
      Declared.add_of_ne hname]

theorem order_declare : (s.table.declare name index).names.Pairwise (d.add name index).Before := by
  have hold : s.table.names.Pairwise (d.add name index).Before :=
    h.order.imp fun hbefore => hbefore.add hbelow
  rw [LabelTable.names_declare]
  split
  · exact hold
  · rename_i hnone
    have hnew : ¬ (d name).Nonempty := by
      rw [← h.names, ← LabelTable.find?_eq_none_iff]
      exact Option.not_isSome_iff_eq_none.mp hnone
    refine List.pairwise_append.mpr ⟨hold, List.pairwise_singleton _ _, ?_⟩
    intro other hother last hlast
    rw [List.mem_singleton.mp hlast]
    exact Declared.before_add_of_new hbelow ((h.names other).mp hother) hnew

theorem warnings_declare : ∃ rs : List Redeclaration, rs.Pairwise (·.new < ·.new) ∧
    (∀ r, r ∈ rs ↔ r.Occurs (d.add name index)) ∧
    (s.declare name index).records.reverse.filter (·.level = .warning) =
      rs.map Redeclaration.record := by
  obtain ⟨rs, hsorted, hmem, hrecords⟩ := h.warnings
  have hrecords' : (s.declare name index).records.reverse.filter (·.level = .warning) =
      rs.map Redeclaration.record ++
        ((s.table.find? name).map (redeclaredRecord name index)).toList := by
    simp only [declare, List.cons_append, List.reverse_cons, List.reverse_append,
      List.filter_append, hrecords]
    cases s.table.find? name <;> simp [declaredRecord, redeclaredRecord]
  -- What the table finds is the last line that declares the label, and the warning names it.
  cases hfound : s.table.find? name with
  | none =>
    refine ⟨rs, hsorted, ?_, by rw [hrecords', hfound]; simp⟩
    intro r
    rw [hmem, Redeclaration.occurs_add hbelow, or_iff_left]
    rintro ⟨-, -, hlast⟩
    rw [h.find?_eq_some_iff.mpr hlast] at hfound
    cases hfound
  | some old =>
    have hlast : IsGreatest (d name) old := h.find?_eq_some_iff.mp hfound
    refine ⟨rs ++ [⟨name, old, index⟩], ?_, ?_, ?_⟩
    · refine List.pairwise_append.mpr ⟨hsorted, List.pairwise_singleton _ _, ?_⟩
      intro r hr new hnew
      rw [List.mem_singleton.mp hnew]
      exact hbelow r.name r.new ((hmem r).mp hr).1
    · intro r
      rw [List.mem_append, List.mem_singleton, hmem, Redeclaration.occurs_add hbelow]
      apply or_congr_right
      constructor
      · rintro rfl
        exact ⟨rfl, rfl, hlast⟩
      · rintro ⟨rfl, rfl, hold⟩
        rw [hlast.unique hold]
    · rw [hrecords', hfound]
      simp [Redeclaration.record]

theorem covers_declare : (s.declare name index).Covers (d.add name index) where
  names other := by
    change other ∈ (s.table.declare name index).names ↔ _
    rw [LabelTable.mem_names_declare, h.names]
    constructor
    · rintro (⟨k, hk⟩ | rfl)
      · exact ⟨k, .inl hk⟩
      · exact ⟨index, .inr ⟨rfl, rfl⟩⟩
    · rintro ⟨k, hk | ⟨rfl, -⟩⟩
      · exact .inl ⟨k, hk⟩
      · exact .inr rfl
  entries := entries_declare h hbelow
  order := order_declare h hbelow
  warnings := warnings_declare h hbelow

end Declare

theorem covers_survey (lines : List String) : (survey lines).Covers (declarations lines) := by
  -- The last line first, since that is the one which the survey has added.
  induction lines using List.reverseRecOn with
  | nil =>
    have hnone : ∀ name k, k ∉ declarations [] name := by simp [declarations]
    refine ⟨?_, ?_, List.Pairwise.nil, [], List.Pairwise.nil, ?_, rfl⟩
    · intro name
      exact iff_of_false List.not_mem_nil fun ⟨k, hk⟩ => hnone name k hk
    · intro name k
      exact iff_of_false List.not_mem_nil fun hk => hnone name k hk.1
    · intro r
      exact iff_of_false List.not_mem_nil fun hr => hnone r.name r.new hr.1
  | append_singleton lines line ih =>
    rw [survey_concat, addLine]
    cases hlabel : Line.label? line with
    | none =>
      rw [declarations_concat_of_no_label hlabel]
      exact ih
    | some name =>
      rw [declarations_concat_of_label hlabel]
      exact covers_declare ih (below_declarations lines)

end Survey
end Program

example : (Program.parse ".b\n.a\n .b ").labels.entries = [("b", 2), ("a", 1)] := by decide +kernel

end TickMachine
