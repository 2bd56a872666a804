import Mathlib.Data.List.Induction
import Mathlib.Data.List.TakeWhile
import TickMachine.Hardware
import TickMachine.Literal
import TickMachine.Text.Blank

namespace TickMachine

section Digits

variable {c : Char} {ds : List Char}

theorem Text.toNat_of_isDigit (h : c.isDigit = true) : 48 ≤ c.toNat ∧ c.toNat ≤ 57 := by
  simpa [Char.isDigit, UInt32.le_iff_toNat_le] using h

theorem Text.isBlank_of_isDigit (h : c.isDigit = true) : isBlank c = false := by
  have hrange := toNat_of_isDigit h
  simp only [isBlank, inRanges, blankRanges, List.any_cons, List.any_nil, Bool.or_false,
    Bool.or_eq_false_iff, Bool.and_eq_false_iff, decide_eq_false_iff_not]
  omega

theorem Literal.isPad_of_isDigit (h : c.isDigit = true) : isPad c = false := by
  cases hp : isPad c with
  | false => rfl
  | true =>
    simp only [isPad, Bool.or_eq_true, decide_eq_true_eq] at hp
    rcases hp with ((rfl | rfl) | rfl) | rfl <;> cases h

theorem Literal.dropWhile_pad_digits (h : ∀ d ∈ ds, d.isDigit = true) :
    ds.dropWhile isPad = ds := by
  rw [List.dropWhile_eq_self_iff]
  intro hpos
  rw [isPad_of_isDigit (h _ (List.getElem_mem hpos))]
  exact Bool.false_ne_true

theorem Literal.readUnsigned_digits (sign : Int) (hne : ds ≠ []) (h : ∀ d ∈ ds, d.isDigit = true) :
    readUnsigned sign ds =
      if maxDigits < ds.length then .oversized ds.length else .value (sign * positional ds) := by
  rw [readUnsigned, List.takeWhile_eq_self_iff.mpr h, List.dropWhile_eq_nil_iff.mpr h, ofDigits,
    if_neg hne]
  rfl

theorem Literal.readSigned_digits (h : ∀ d ∈ ds, d.isDigit = true) :
    readSigned ds = readUnsigned 1 ds := by
  unfold readSigned
  split
  · exact absurd (h '-' List.mem_cons_self) (by decide)
  · exact absurd (h '+' List.mem_cons_self) (by decide)
  · rfl

theorem Literal.read_digits (hne : ds ≠ []) (h : ∀ d ∈ ds, d.isDigit = true) :
    read (String.ofList ds) =
      if maxDigits < ds.length then .oversized ds.length else .value (positional ds) := by
  rw [read, String.toList_ofList, dropWhile_pad_digits h, readSigned_digits h,
    readUnsigned_digits 1 hne h, Int.one_mul]

end Digits

namespace Literal

def dropSign : List Char → List Char
  | '-' :: ds => ds
  | '+' :: ds => ds
  | ds => ds

/-- An optional sign and at least one decimal digit, and nothing else. -/
def IsNumeral (s : String) : Prop :=
  dropSign s.toList ≠ [] ∧ (dropSign s.toList).all Char.isDigit = true

instance (s : String) : Decidable (IsNumeral s) := inferInstanceAs (Decidable (_ ∧ _))

def decimal (n : Nat) : String := String.ofList (Nat.toDigits 10 n)

theorem isDigit_of_mem_decimal {n : Nat} {d : Char} (hd : d ∈ Nat.toDigits 10 n) :
    d.isDigit = true := Nat.isDigit_of_mem_toDigits (by decide) (by decide) hd

theorem isNumeral_decimal (n : Nat) : IsNumeral (decimal n) := by
  have hne : Nat.toDigits 10 n ≠ [] := Nat.toDigits_ne_nil
  have hsign : dropSign (Nat.toDigits 10 n) = Nat.toDigits 10 n := by
    unfold dropSign
    split
    · rename_i ds hds
      exact absurd (isDigit_of_mem_decimal (hds ▸ List.mem_cons_self)) (by decide)
    · rename_i ds hds
      exact absurd (isDigit_of_mem_decimal (hds ▸ List.mem_cons_self)) (by decide)
    · rfl
  rw [IsNumeral, decimal, String.toList_ofList, hsign]
  exact ⟨hne, List.all_eq_true.mpr fun d hd => isDigit_of_mem_decimal hd⟩

theorem length_toDigits_le_iff {n k : Nat} (hk : 0 < k) :
    (Nat.toDigits 10 n).length ≤ k ↔ n < Nat.pow 10 k :=
  Nat.length_toDigits_le_iff (by decide) hk

theorem lt_digitCount_pow {k : Nat} (hk : 0 < k) : k < digitCount (Nat.pow 10 k : Nat) := by
  by_contra hshort
  exact Nat.lt_irrefl _ ((length_toDigits_le_iff hk).mp (Nat.not_lt.mp hshort))

theorem read_decimal {n : Nat} (h : n < Nat.pow 10 maxDigits) : read (decimal n) = .value n := by
  have hlength : (Nat.toDigits 10 n).length ≤ maxDigits :=
    (length_toDigits_le_iff (by decide)).mpr h
  have hvalue : positional (Nat.toDigits 10 n) = n := Nat.ofDigitChars_ten_toDigits
  rw [decimal, read_digits Nat.toDigits_ne_nil fun d hd => isDigit_of_mem_decimal hd,
    if_neg (by omega), hvalue]

def digitValue (d : Char) : Nat := d.toNat - '0'.toNat

theorem digitValue_lt {d : Char} (h : d.isDigit = true) : digitValue d < 10 := by
  have hrange := Text.toNat_of_isDigit h
  change d.toNat - 48 < 10
  omega

theorem positional_concat (ds : List Char) (d : Char) :
    positional (ds ++ [d]) = digitValue d + 10 * positional ds := by
  simp only [positional, digitValue, List.foldl_append, List.foldl_cons, List.foldl_nil]
  omega

theorem positional_lt {ds : List Char} (h : ∀ d ∈ ds, d.isDigit = true) :
    positional ds < Nat.pow 10 ds.length := by
  induction ds using List.reverseRecOn with
  | nil => decide
  | append_singleton ds d ih =>
    have hrest := ih fun c hc => h c (List.mem_append_left _ hc)
    have hlast := digitValue_lt (h d (by simp))
    have hpow : Nat.pow 10 (ds ++ [d]).length = Nat.pow 10 ds.length * 10 := by
      rw [List.length_append]
      rfl
    rw [positional_concat, hpow]
    omega

/-- An index that fits into 64 bits has far fewer digits than are allowed, and so has the next. -/
theorem isWritable_of_fits {n : Int} (hlow : -Hardware.indexLimit ≤ n)
    (hhigh : n ≤ Hardware.indexLimit) : isWritable n = true := by
  have hnarrow : n.natAbs < Nat.pow 10 19 := by
    have hlimit : Hardware.indexLimit = 9223372036854775808 := rfl
    have hpow : Nat.pow 10 19 = 10000000000000000000 := by decide
    omega
  have hcount : digitCount n ≤ 19 := (length_toDigits_le_iff (by decide)).mpr hnarrow
  exact decide_eq_true (hcount.trans (by decide))

def numeralValue (s : String) : Int :=
  if s.toList.head? = some '-' then -(positional (dropSign s.toList) : Int)
  else positional (dropSign s.toList)

/-- A token spells a number: it is a numeral of that value, with no more digits than are read. -/
def Spells (token : String) (v : Int) : Prop :=
  IsNumeral token ∧ (dropSign token.toList).length ≤ maxDigits ∧ numeralValue token = v

instance (token : String) (v : Int) : Decidable (Spells token v) :=
  inferInstanceAs (Decidable (_ ∧ _))

theorem dropSign_cases (cs : List Char) :
    (∃ ds, cs = '-' :: ds) ∨ (∃ ds, cs = '+' :: ds) ∨ dropSign cs = cs := by
  unfold dropSign
  split
  · exact .inl ⟨_, rfl⟩
  · exact .inr (.inl ⟨_, rfl⟩)
  · exact .inr (.inr rfl)

theorem read_of_spells {token : String} {v : Int} (h : Spells token v) : read token = .value v := by
  obtain ⟨⟨hne, hall⟩, hshort, rfl⟩ := h
  unfold numeralValue read
  generalize token.toList = cs at hne hall hshort
  have hdigits : ∀ d ∈ dropSign cs, d.isDigit = true := List.all_eq_true.mp hall
  have hread (sign : Int) : readUnsigned sign (dropSign cs) =
      .value (sign * positional (dropSign cs)) := by
    rw [readUnsigned_digits sign hne hdigits, if_neg (by omega)]
  obtain ⟨ds, rfl⟩ | ⟨ds, rfl⟩ | hplain := dropSign_cases cs
  · rw [List.dropWhile_cons_of_neg (by decide)]
    simpa [dropSign, readSigned] using hread (-1)
  · rw [List.dropWhile_cons_of_neg (by decide)]
    simpa [dropSign, readSigned] using hread 1
  · rw [hplain] at hdigits hread ⊢
    have hminus : cs.head? ≠ some '-' := by
      intro hhead
      exact absurd (hdigits '-' (List.mem_of_mem_head? hhead)) (by decide)
    rw [dropWhile_pad_digits hdigits, readSigned_digits hdigits, hread 1, if_neg hminus,
      Int.one_mul]

theorem readSigned_eq (cs : List Char) :
    readSigned cs = readUnsigned (if cs.head? = some '-' then -1 else 1) (dropSign cs) := by
  unfold readSigned
  split
  · rfl
  · rfl
  · rename_i hminus hplus
    have hhead : cs.head? ≠ some '-' := by
      intro h
      obtain ⟨ds, rfl⟩ := List.head?_eq_some_iff.mp h
      exact hminus ds rfl
    have hdrop : dropSign cs = cs := by
      obtain ⟨ds, rfl⟩ | ⟨ds, rfl⟩ | hplain := dropSign_cases cs
      · exact absurd rfl (hminus ds)
      · exact absurd rfl (hplus ds)
      · exact hplain
    rw [if_neg hhead, hdrop]

/-- What has been read can be written: no number needs more digits than it was spelled with. -/
theorem isWritable_of_read {token : String} {n : Int} (h : read token = .value n) :
    isWritable n = true := by
  rw [read, readSigned_eq, readUnsigned, ofDigits] at h
  have hdigits : ∀ d ∈ (dropSign (token.toList.dropWhile isPad)).takeWhile Char.isDigit,
      d.isDigit = true := fun d hd => List.mem_takeWhile_imp hd
  generalize (dropSign (token.toList.dropWhile isPad)).takeWhile Char.isDigit = ds at h hdigits
  split at h
  · cases h
  rename_i hne
  split at h
  · cases h
  rename_i hshort
  split at h
  · cases h
    have hcount : (Nat.toDigits 10 (positional ds)).length ≤ ds.length :=
      (length_toDigits_le_iff (List.length_pos_iff.mpr hne)).mpr (positional_lt hdigits)
    refine decide_eq_true (Nat.le_trans ?_ (Nat.not_lt.mp hshort))
    rw [digitCount, Int.natAbs_mul]
    split <;> simpa using hcount
  · cases h

theorem numeralValue_eq (token : String) : numeralValue token =
    (if token.toList.head? = some '-' then -1 else 1) * positional (dropSign token.toList) := by
  unfold numeralValue
  split
  · rw [Int.neg_one_mul]
  · rw [Int.one_mul]

theorem mem_of_mem_dropSign {cs : List Char} {c : Char} (hc : c ∈ dropSign cs) : c ∈ cs := by
  unfold dropSign at hc
  split at hc
  · exact List.mem_cons_of_mem _ hc
  · exact List.mem_cons_of_mem _ hc
  · exact hc

/-- The digits that a token begins with, behind its sign. -/
def digitRun (token : String) : List Char := (dropSign token.toList).takeWhile Char.isDigit

def PastDigits (rest : List Char) : Prop := ∀ c ∈ rest.head?, c.isDigit = false

section PastDigits

variable {ds rest : List Char} (hds : ∀ d ∈ ds, d.isDigit = true) (hrest : PastDigits rest)
include hds hrest

theorem takeWhile_digits : (ds ++ rest).takeWhile Char.isDigit = ds := by
  have hstop : rest.takeWhile Char.isDigit = [] := by
    cases rest with
    | nil => rfl
    | cons c rest => exact List.takeWhile_cons_of_neg (by simp [hrest c rfl])
  rw [List.takeWhile_append_of_pos hds, hstop, List.append_nil]

theorem dropWhile_digits : (ds ++ rest).dropWhile Char.isDigit = rest := by
  rw [List.dropWhile_append_of_pos hds]
  cases rest with
  | nil => rfl
  | cons c rest => exact List.dropWhile_cons_of_neg (by simp [hrest c rfl])

end PastDigits

theorem read_of_no_pad {token : String} (h : ∀ c ∈ token.toList, isPad c = false) :
    read token = readSigned token.toList := by
  have hdrop : token.toList.dropWhile isPad = token.toList := by
    rw [List.dropWhile_eq_self_iff]
    intro hpos
    rw [h _ (List.getElem_mem hpos)]
    exact Bool.false_ne_true
  rw [read, hdrop]

/-- How a token without padding is read: if it begins with too many digits, it is oversized, even
where it is no numeral. -/
theorem read_eq {token : String} (h : ∀ c ∈ token.toList, isPad c = false) : read token =
    if maxDigits < (digitRun token).length then .oversized (digitRun token).length
    else if IsNumeral token then .value (numeralValue token)
    else .notInteger := by
  rw [read_of_no_pad h, readSigned_eq, readUnsigned, ofDigits, ← digitRun]
  by_cases hnone : digitRun token = []
  · -- Without a first digit there is no numeral.
    have hnot : ¬ IsNumeral token := by
      rintro ⟨hne, hall⟩
      exact hne (List.takeWhile_eq_self_iff.mpr (List.all_eq_true.mp hall) ▸ hnone)
    rw [if_pos hnone, if_neg (by simp [hnone]), if_neg hnot]
  rw [if_neg hnone]
  split
  · rfl
  by_cases hall : (dropSign token.toList).all Char.isDigit = true
  · have hrun : digitRun token = dropSign token.toList :=
      List.takeWhile_eq_self_iff.mpr (List.all_eq_true.mp hall)
    have hrest : (dropSign token.toList).dropWhile Char.isDigit = [] :=
      List.dropWhile_eq_nil_iff.mpr (List.all_eq_true.mp hall)
    rw [if_pos (show IsNumeral token from ⟨hrun ▸ hnone, hall⟩), hrest, hrun, numeralValue_eq]
    rfl
  · -- What stands behind the digits is no padding, so there is no integer.
    have hrest : (dropSign token.toList).dropWhile Char.isDigit ≠ [] := by
      intro hnil
      exact hall (List.all_eq_true.mpr (List.dropWhile_eq_nil_iff.mp hnil))
    obtain ⟨c, rest, hcons⟩ := List.exists_cons_of_ne_nil hrest
    have hmem : c ∈ (dropSign token.toList).dropWhile Char.isDigit := by
      rw [hcons]
      exact List.mem_cons_self
    have hc : isPad c = false := h c (mem_of_mem_dropSign ((List.dropWhile_suffix _).subset hmem))
    have hnot : ¬ IsNumeral token := fun hnumeral => hall hnumeral.2
    rw [if_neg hnot, hcons]
    simp [hc]

theorem isBlank_of_isPad {c : Char} (h : isPad c = true) : Text.isBlank c = true := by
  simp only [isPad, Bool.or_eq_true, decide_eq_true_eq] at h
  rcases h with ((rfl | rfl) | rfl) | rfl <;> decide

theorem isPad_eq_false {c : Char} (h : Text.isBlank c = false) : isPad c = false := by
  rw [Bool.eq_false_iff]
  intro hpad
  rw [isBlank_of_isPad hpad] at h
  cases h

end Literal
end TickMachine
