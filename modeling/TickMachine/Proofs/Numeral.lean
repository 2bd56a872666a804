import Mathlib.Data.Nat.Digits.Defs
import TickMachine.Proofs.Literal

namespace TickMachine

namespace Literal

inductive Sign where
  | none
  | plus
  | minus
deriving DecidableEq, Repr

def Sign.chars : Sign → List Char
  | none => []
  | plus => ['+']
  | minus => ['-']

def Sign.factor : Sign → Int
  | none => 1
  | plus => 1
  | minus => -1

/-- What a numeral begins with: padding, a sign or none, and digits. -/
structure Head where
  lead : List Char
  sign : Sign
  digits : List Char
  lead_pad : lead.all isPad = true
  digits_ne_nil : digits ≠ []
  digits_digit : digits.all Char.isDigit = true

def Head.before (h : Head) (rest : List Char) : String :=
  String.ofList (h.lead ++ (h.sign.chars ++ (h.digits ++ rest)))

/-- A numeral with nothing but padding around it. -/
structure PaddedNumeral extends Head where
  trail : List Char
  trail_pad : trail.all isPad = true

namespace PaddedNumeral

def text (p : PaddedNumeral) : String := p.before p.trail

/-- The last digit counts once, and every other one ten times as much as the next. -/
def value (p : PaddedNumeral) : Int :=
  p.sign.factor * (Nat.ofDigits 10 (p.digits.reverse.map digitValue) : Nat)

end PaddedNumeral

/-- The text begins with more digits than are converted, and it does not end as a numeral does. -/
def Overruns (text : String) (count : Nat) : Prop :=
  ∃ (h : Head) (rest : List Char), h.before rest = text ∧ h.digits.length = count ∧
    maxDigits < count ∧ PastDigits rest ∧ rest.all isPad = false

theorem positional_eq (ds : List Char) :
    positional ds = Nat.ofDigits 10 (ds.reverse.map digitValue) := by
  induction ds using List.reverseRecOn with
  | nil => rfl
  | append_singleton ds d ih =>
    rw [positional_concat, ih, List.reverse_concat, List.map_cons, Nat.ofDigits_cons]

section Digits

variable {ds rest : List Char} (hne : ds ≠ []) (hds : ∀ d ∈ ds, d.isDigit = true)
include hne hds

theorem dropWhile_pad_sign (sign : Sign) :
    (sign.chars ++ (ds ++ rest)).dropWhile isPad = sign.chars ++ (ds ++ rest) := by
  cases sign with
  | plus | minus => exact List.dropWhile_cons_of_neg (by decide)
  | none =>
    obtain ⟨d, ds, rfl⟩ := List.exists_cons_of_ne_nil hne
    refine List.dropWhile_cons_of_neg ?_
    rw [isPad_of_isDigit (hds d List.mem_cons_self)]
    exact Bool.false_ne_true

theorem ne_sign_of_digits {c : Char} (hc : c.isDigit = false) : (ds ++ rest).head? ≠ some c := by
  obtain ⟨d, ds, rfl⟩ := List.exists_cons_of_ne_nil hne
  intro hhead
  obtain rfl : d = c := Option.some.inj hhead
  rw [hds d List.mem_cons_self] at hc
  cases hc

theorem dropSign_sign (sign : Sign) : dropSign (sign.chars ++ (ds ++ rest)) = ds ++ rest := by
  cases sign with
  | plus | minus => rfl
  | none =>
    change dropSign (ds ++ rest) = ds ++ rest
    obtain ⟨cs, hcs⟩ | ⟨cs, hcs⟩ | hplain := dropSign_cases (ds ++ rest)
    · exact absurd (by rw [hcs]; rfl) (ne_sign_of_digits hne hds (c := '-') rfl)
    · exact absurd (by rw [hcs]; rfl) (ne_sign_of_digits hne hds (c := '+') rfl)
    · exact hplain

theorem readSigned_sign (sign : Sign) :
    readSigned (sign.chars ++ (ds ++ rest)) = readUnsigned sign.factor (ds ++ rest) := by
  rw [readSigned_eq, dropSign_sign hne hds]
  cases sign with
  | plus | minus => rfl
  | none =>
    have hhead : (Sign.none.chars ++ (ds ++ rest)).head? ≠ some '-' := ne_sign_of_digits hne hds rfl
    rw [if_neg hhead]
    rfl

end Digits

theorem pastDigits_of_pad {rest : List Char} (h : rest.all isPad = true) : PastDigits rest := by
  intro c hc
  have hpad : isPad c = true := List.all_eq_true.mp h c (List.mem_of_mem_head? hc)
  cases hdigit : c.isDigit with
  | false => rfl
  | true =>
    rw [isPad_of_isDigit hdigit] at hpad
    cases hpad

theorem pastDigits_dropWhile (cs : List Char) : PastDigits (cs.dropWhile Char.isDigit) := by
  intro c hc
  have h := List.head?_dropWhile_not Char.isDigit cs
  rw [hc] at h
  exact h

namespace Head

variable {h : Head} {rest : List Char}

theorem isDigit (h : Head) : ∀ d ∈ h.digits, d.isDigit = true := List.all_eq_true.mp h.digits_digit

theorem unpadded (h : Head) (rest : List Char) :
    (h.before rest).toList.dropWhile isPad = h.sign.chars ++ (h.digits ++ rest) := by
  rw [before, String.toList_ofList, List.dropWhile_append_of_pos (List.all_eq_true.mp h.lead_pad),
    dropWhile_pad_sign h.digits_ne_nil h.isDigit]

theorem read_before (hrest : PastDigits rest) :
    read (h.before rest) = ofDigits h.sign.factor h.digits rest := by
  rw [read, h.unpadded, readSigned_sign h.digits_ne_nil h.isDigit, readUnsigned,
    takeWhile_digits h.isDigit hrest, dropWhile_digits h.isDigit hrest]

theorem read_before_of_long (hrest : PastDigits rest) (hlong : maxDigits < h.digits.length) :
    read (h.before rest) = .oversized h.digits.length := by
  rw [read_before hrest, ofDigits, if_neg h.digits_ne_nil, if_pos hlong]

theorem read_before_of_short (hrest : PastDigits rest) (hshort : h.digits.length ≤ maxDigits) :
    read (h.before rest) =
      if rest.all isPad then .value (h.sign.factor * positional h.digits) else .notInteger := by
  rw [read_before hrest, ofDigits, if_neg h.digits_ne_nil, if_neg (Nat.not_lt.mpr hshort)]

end Head

theorem Head.rest_unique {h h' : Head} {rest rest' : List Char} (hrest : PastDigits rest)
    (hrest' : PastDigits rest') (heq : h.before rest = h'.before rest') : rest = rest' := by
  have hbody : h.digits ++ rest = h'.digits ++ rest' := by
    rw [← dropSign_sign h.digits_ne_nil h.isDigit h.sign,
      ← dropSign_sign h'.digits_ne_nil h'.isDigit h'.sign, ← h.unpadded, ← h'.unpadded, heq]
  rw [← dropWhile_digits h.isDigit hrest, hbody, dropWhile_digits h'.isDigit hrest']

theorem exists_sign (cs : List Char) : ∃ sign : Sign, sign.chars ++ dropSign cs = cs := by
  obtain ⟨ds, rfl⟩ | ⟨ds, rfl⟩ | hplain := dropSign_cases cs
  · exact ⟨.minus, rfl⟩
  · exact ⟨.plus, rfl⟩
  · exact ⟨.none, hplain⟩

theorem exists_head {text : String} (hread : read text ≠ .notInteger) :
    ∃ (h : Head) (rest : List Char), h.before rest = text ∧ PastDigits rest := by
  let cs := text.toList.dropWhile isPad
  -- Without a first digit the text would have been refused at once.
  have hne : (dropSign cs).takeWhile Char.isDigit ≠ [] := by
    intro hnone
    apply hread
    rw [read, readSigned_eq, readUnsigned, ofDigits, if_pos hnone]
  obtain ⟨sign, hsign⟩ := exists_sign cs
  refine ⟨⟨text.toList.takeWhile isPad, sign, (dropSign cs).takeWhile Char.isDigit,
    List.all_takeWhile, hne, List.all_takeWhile⟩, (dropSign cs).dropWhile Char.isDigit, ?_,
    pastDigits_dropWhile _⟩
  rw [Head.before, List.takeWhile_append_dropWhile, hsign, List.takeWhile_append_dropWhile,
    String.ofList_toList]

theorem PaddedNumeral.read_text (p : PaddedNumeral) : read p.text =
    if maxDigits < p.digits.length then .oversized p.digits.length else .value p.value := by
  have hrest : PastDigits p.trail := pastDigits_of_pad p.trail_pad
  rw [text]
  split
  · rename_i hlong
    exact Head.read_before_of_long hrest hlong
  · rename_i hshort
    rw [Head.read_before_of_short hrest (Nat.not_lt.mp hshort), if_pos p.trail_pad, value,
      ← positional_eq]

theorem read_of_overruns {text : String} {count : Nat} (h : Overruns text count) :
    read text = .oversized count := by
  obtain ⟨h, rest, rfl, rfl, hlong, hrest, -⟩ := h
  exact Head.read_before_of_long hrest hlong

theorem PaddedNumeral.not_overruns (p : PaddedNumeral) (count : Nat) : ¬ Overruns p.text count := by
  rintro ⟨h, rest, htext, -, -, hrest, hnot⟩
  have htrail : rest = p.trail := Head.rest_unique hrest (pastDigits_of_pad p.trail_pad) htext
  rw [htrail, p.trail_pad] at hnot
  cases hnot

theorem numeral_or_overruns {text : String} (hread : read text ≠ .notInteger) :
    (∃ p : PaddedNumeral, p.text = text) ∨ ∃ count, Overruns text count := by
  obtain ⟨h, rest, rfl, hrest⟩ := exists_head hread
  cases hpad : rest.all isPad with
  | true => exact .inl ⟨⟨h, rest, hpad⟩, rfl⟩
  | false =>
    -- With fewer digits, what follows them would have been looked at.
    refine .inr ⟨h.digits.length, h, rest, rfl, rfl, ?_, hrest, hpad⟩
    apply Nat.lt_of_not_le
    intro hshort
    apply hread
    rw [Head.read_before_of_short hrest hshort, hpad]
    rfl

theorem read_eq_notInteger_iff (text : String) : read text = .notInteger ↔
    (¬ ∃ p : PaddedNumeral, p.text = text) ∧ ¬ ∃ count, Overruns text count := by
  constructor
  · intro hread
    refine ⟨?_, ?_⟩
    · rintro ⟨p, rfl⟩
      rw [p.read_text] at hread
      split at hread <;> cases hread
    · rintro ⟨count, hover⟩
      rw [read_of_overruns hover] at hread
      cases hread
  · rintro ⟨hnumeral, hover⟩
    by_contra hread
    exact (numeral_or_overruns hread).elim hnumeral hover

/-- A number written out, with a plus sign in front of it or not, with further zeros, and with
padding around it. -/
structure Rendering where
  number : Int
  plus : Bool
  zeros : Nat
  lead : List Char
  trail : List Char
  lead_pad : lead.all isPad = true
  trail_pad : trail.all isPad = true

namespace Rendering

def sign (r : Rendering) : Sign :=
  if r.number < 0 then .minus else if r.plus then .plus else .none

def text (r : Rendering) : String :=
  String.ofList r.lead ++ String.ofList r.sign.chars ++ String.ofList (.replicate r.zeros '0') ++
    toString r.number.natAbs ++ String.ofList r.trail

def digitCount (r : Rendering) : Nat := r.zeros + (toString r.number.natAbs).length

def plain (n : Int) : Rendering := ⟨n, false, 0, [], [], rfl, rfl⟩

theorem toList_text (r : Rendering) : r.text.toList = r.lead ++ (r.sign.chars ++
    ((.replicate r.zeros '0' ++ Nat.toDigits 10 r.number.natAbs) ++ r.trail)) := by
  simp [text]

theorem text_plain (n : Int) : (plain n).text = toString n := by
  rw [← String.toList_inj, toList_text]
  cases n with
  | ofNat m =>
    have hsign : (plain (.ofNat m)).sign = .none := if_neg (Int.not_lt.mpr (Int.natCast_nonneg m))
    rw [hsign]
    change Nat.toDigits 10 m ++ [] = m.repr.toList
    rw [List.append_nil, Nat.toList_repr]
  | negSucc m =>
    have hsign : (plain (.negSucc m)).sign = .minus := if_pos (Int.negSucc_lt_zero m)
    rw [hsign]
    change '-' :: (Nat.toDigits 10 m.succ ++ []) = ("-" ++ m.succ.repr).toList
    rw [List.append_nil, String.toList_append, Nat.toList_repr]
    rfl

theorem positional_zeros (k : Nat) (ds : List Char) :
    positional (.replicate k '0' ++ ds) = positional ds := by
  have hzeros : positional (.replicate k '0') = 0 := by
    induction k with
    | zero => rfl
    | succ k ih => rw [List.replicate_succ', positional_concat, ih]; rfl
  rw [positional, List.foldl_append, ← positional, hzeros, ← positional]

def numeral (r : Rendering) : PaddedNumeral where
  lead := r.lead
  sign := r.sign
  digits := .replicate r.zeros '0' ++ Nat.toDigits 10 r.number.natAbs
  trail := r.trail
  lead_pad := r.lead_pad
  digits_ne_nil := List.append_ne_nil_of_right_ne_nil _ Nat.toDigits_ne_nil
  digits_digit := by
    rw [List.all_append, Bool.and_eq_true, List.all_eq_true, List.all_eq_true]
    refine ⟨?_, fun d hd => isDigit_of_mem_decimal hd⟩
    intro d hd
    rw [List.eq_of_mem_replicate hd]
    rfl
  trail_pad := r.trail_pad

theorem text_numeral (r : Rendering) : r.numeral.text = r.text := by
  rw [← String.toList_inj, toList_text]
  exact String.toList_ofList

theorem length_digits_numeral (r : Rendering) : r.numeral.digits.length = r.digitCount := by
  rw [digitCount, ← String.length_toList, Nat.toString_eq_repr, Nat.toList_repr]
  simp [numeral]

theorem value_numeral (r : Rendering) : r.numeral.value = r.number := by
  have hvalue : Nat.ofDigits 10 (r.numeral.digits.reverse.map digitValue) = r.number.natAbs := by
    rw [← positional_eq, numeral, positional_zeros]
    exact Nat.ofDigitChars_ten_toDigits
  rw [PaddedNumeral.value, hvalue]
  change r.sign.factor * (r.number.natAbs : Int) = r.number
  by_cases hneg : r.number < 0
  · rw [sign, if_pos hneg, Sign.factor]
    omega
  · have hone : r.sign.factor = 1 := by
      rw [sign, if_neg hneg]
      split <;> rfl
    rw [hone]
    omega

end Rendering

theorem Rendering.read_text {r : Rendering} (h : r.digitCount ≤ maxDigits) :
    read r.text = .value r.number := by
  rw [← r.text_numeral, r.numeral.read_text, r.length_digits_numeral, if_neg (Nat.not_lt.mpr h),
    r.value_numeral]

end Literal

/-- Every numeral is read as the number it stands for, or refused because it has too many digits.
Texts that are no numerals are refused as such, but for those that begin with too many digits: it
is exactly on these that an integer is seen where there is none. A number that was written out, with
few enough digits, is read back. -/
theorem numeral_reading_exact (text : String) :
    ((Literal.read text ≠ .notInteger ↔ ∃ p : Literal.PaddedNumeral, p.text = text) ↔
      ¬ ∃ count, Literal.Overruns text count) ∧
    (Literal.read text = .notInteger ↔
      (¬ ∃ p : Literal.PaddedNumeral, p.text = text) ∧ ¬ ∃ count, Literal.Overruns text count) ∧
    (∀ p : Literal.PaddedNumeral, p.text = text → Literal.read text =
      if Literal.maxDigits < p.digits.length then .oversized p.digits.length else .value p.value) ∧
    (∀ count, Literal.Overruns text count → Literal.read text = .oversized count) ∧
    (∀ r : Literal.Rendering, r.text = text → r.digitCount ≤ Literal.maxDigits →
      Literal.read text = .value r.number) ∧
    ∀ n : Int, toString n = text → (toString n.natAbs).length ≤ Literal.maxDigits →
      Literal.read text = .value n := by
  have hnone := Literal.read_eq_notInteger_iff text
  refine ⟨?_, hnone, ?_, fun count => Literal.read_of_overruns, ?_, ?_⟩
  · constructor
    · rintro hexact ⟨count, hover⟩
      obtain ⟨p, rfl⟩ := hexact.mp (by simp [Literal.read_of_overruns hover])
      exact p.not_overruns count hover
    · intro hover
      rw [Ne, hnone]
      tauto
  · rintro p rfl
    exact p.read_text
  · rintro r rfl hcount
    exact r.read_text hcount
  · rintro n rfl hcount
    rw [← Literal.Rendering.text_plain]
    apply Literal.Rendering.read_text
    rwa [Literal.Rendering.digitCount, Literal.Rendering.plain, Nat.zero_add]

def Literal.Head.ones (n : Nat) : Head where
  lead := []
  sign := .none
  digits := .replicate (n + 1) '1'
  lead_pad := rfl
  digits_ne_nil := List.cons_ne_nil _ _
  digits_digit := by
    rw [List.all_replicate]
    rfl

/-- A blank that is no padding spoils a numeral, but behind too many digits not even a letter is
seen. -/
theorem numeral_reading_exact_tabbed_onLongWord :
    let long := (Literal.Head.ones Literal.maxDigits).before ['x']
    Literal.read long = .oversized (Literal.maxDigits + 1) ∧
    ¬ (Literal.read long ≠ .notInteger ↔ ∃ p : Literal.PaddedNumeral, p.text = long) ∧
    Literal.read "\t-007\r\n" = .value (-7) ∧
    ¬ ∃ p : Literal.PaddedNumeral, p.text = "\u00a07" := by
  intro long
  obtain ⟨hexact, -, -, hover, -⟩ := numeral_reading_exact long
  have hlong : Literal.Overruns long (Literal.maxDigits + 1) := by
    refine ⟨_, ['x'], rfl, List.length_replicate, Nat.lt_succ_self _, ?_, by decide⟩
    rintro c ⟨⟩
    rfl
  refine ⟨hover _ hlong, fun h => hexact.mp h ⟨_, hlong⟩, ?_, ?_⟩
  · let r : Literal.Rendering := ⟨-7, false, 2, ['\t'], ['\r', '\n'], by decide, by decide⟩
    exact (numeral_reading_exact _).2.2.2.2.1 r (by decide +kernel) (by decide +kernel)
  · exact ((numeral_reading_exact _).2.1.mp (by decide +kernel)).1

end TickMachine
