import TickMachine.Text.Blank

namespace TickMachine.Text

/-- The lines of a text; a line feed separates two of them, so there is always at least one. -/
def lines (s : String) : List String := (s.toList.splitOn '\n').map String.ofList

/-- The maximal runs of characters that are not blank. -/
def wordsOf (cs : List Char) : List (List Char) :=
  (cs.splitOnP isBlank).filter fun w => !w.isEmpty

def words (s : String) : List String := (wordsOf s.toList).map String.ofList

def trimBlanks (cs : List Char) : List Char :=
  ((cs.dropWhile isBlank).reverse.dropWhile isBlank).reverse

def trim (s : String) : String := String.ofList (trimBlanks s.toList)

@[simp]
theorem wordsOf_nil : wordsOf [] = [] := by simp [wordsOf, List.splitOnP_nil]

theorem wordsOf_append_blank {c : Char} (hc : isBlank c = true) (s t : List Char) :
    wordsOf (s ++ c :: t) = wordsOf s ++ wordsOf t := by
  unfold wordsOf
  rw [List.splitOnP_append_cons s t hc, List.filter_append]

theorem wordsOf_cons_blank {c : Char} (hc : isBlank c = true) (t : List Char) :
    wordsOf (c :: t) = wordsOf t := by
  simpa using wordsOf_append_blank hc [] t

theorem wordsOf_of_no_blank {w : List Char} (hne : w ≠ []) (h : ∀ c ∈ w, isBlank c = false) :
    wordsOf w = [w] := by
  rw [wordsOf, List.splitOnP_eq_singleton h]
  simp [hne]

end TickMachine.Text
