import Mathlib.Data.List.Basic
import Mathlib.Data.List.Induction
import TickMachine.Bank
import TickMachine.Proofs.Literal

namespace TickMachine

namespace Bank

inductive Access where
  | get (index : Int)
  | set (index value : Int)
  | clear
deriving DecidableEq, Repr

def access (b : Bank) : Access → Bank × Except Trap (Option UInt8)
  | .get index => (b, some <$> b.get index)
  | .set index value =>
    match b.set index value with
    | .ok stored => (stored, .ok none)
    | .error t => (b, .error t)
  | .clear => (b.clear, .ok none)

def accessAll (b : Bank) (history : List Access) : Bank :=
  history.foldl (fun b a => (b.access a).1) b

/-- A number was stored at an index, and since then no other was and the bank was not cleared. -/
def LastSet (history : List Access) (index value : Int) : Prop :=
  ∃ earlier later, history = earlier ++ .set index value :: later ∧
    .clear ∉ later ∧ ∀ other, .set index other ∉ later

section LastSet

variable {history : List Access} {index value : Int}

theorem not_lastSet_nil : ¬ LastSet [] index value := by
  rintro ⟨earlier, later, h, -⟩
  cases earlier <;> cases h

theorem lastSet_concat_iff {a : Access} : LastSet (history ++ [a]) index value ↔
    a = .set index value ∨
      a ≠ .clear ∧ (∀ other, a ≠ .set index other) ∧ LastSet history index value := by
  constructor
  · rintro ⟨earlier, later, h, hclear, hset⟩
    obtain rfl | ⟨later, c, rfl⟩ := List.eq_nil_or_concat' later
    · exact .inl (List.cons.inj (List.append_inj' h rfl).2).1
    · rw [← List.cons_append, ← List.append_assoc] at h
      obtain ⟨hhistory, hlast⟩ := List.append_inj' h rfl
      obtain rfl : a = c := (List.cons.inj hlast).1
      simp only [List.mem_append, List.mem_singleton, not_or] at hclear hset
      exact .inr ⟨fun h => hclear.2 h.symm, fun other h => (hset other).2 h.symm,
        earlier, later, hhistory, hclear.1, fun other => (hset other).1⟩
  · rintro (rfl | ⟨hclear, hset, earlier, later, rfl, hclear', hset'⟩)
    · exact ⟨history, [], rfl, List.not_mem_nil, fun other => List.not_mem_nil⟩
    · refine ⟨earlier, later ++ [a], by simp, ?_, ?_⟩
      · simpa using ⟨hclear', hclear.symm⟩
      · intro other
        simpa using ⟨hset' other, (hset other).symm⟩

theorem lastSet_get {i : Int} :
    LastSet (history ++ [.get i]) index value ↔ LastSet history index value := by
  simp [lastSet_concat_iff]

theorem not_lastSet_clear : ¬ LastSet (history ++ [.clear]) index value := by
  simp [lastSet_concat_iff]

theorem lastSet_set_self {v : Int} :
    LastSet (history ++ [.set index v]) index value ↔ v = value := by
  simp [lastSet_concat_iff]

theorem lastSet_set_of_ne {i v : Int} (h : i ≠ index) :
    LastSet (history ++ [.set i v]) index value ↔ LastSet history index value := by
  simp [lastSet_concat_iff, h]

end LastSet

theorem read_zeroed (kind : BankKind) (n place : Nat) : (zeroed kind n).read place = 0 := by
  rw [zeroed, read, List.getD_eq_getElem?_getD, List.getElem?_replicate]
  split <;> rfl

section Check

variable {b : Bank} {index : Int}

theorem check_of_inside (h : 0 ≤ index ∧ index < b.size) : b.check index = .ok index.toNat :=
  if_pos h

theorem check_of_outside (h : ¬ (0 ≤ index ∧ index < b.size)) :
    b.check index = .error (b.refusal index) := if_neg h

theorem refusal_invalid_iff : (∃ f : Fault, b.refusal index = .fault f ∧ f.kind = .invalidOperand) ↔
    Literal.digitCount index ≤ Literal.maxDigits := by
  unfold refusal
  cases hw : Literal.isWritable index with
  | true => simpa [Fault.kind] using of_decide_eq_true hw
  | false => simpa using of_decide_eq_false hw

theorem refusal_of_long (h : Literal.maxDigits < Literal.digitCount index) :
    b.refusal index = .unwritable := by
  have hw : Literal.isWritable index = false := decide_eq_false (Nat.not_le.mpr h)
  simp [refusal, hw]

theorem get_of_inside (h : 0 ≤ index ∧ index < b.size) :
    b.get index = .ok (b.read index.toNat) := by
  rw [get, check_of_inside h]
  rfl

theorem get_of_outside (h : ¬ (0 ≤ index ∧ index < b.size)) :
    b.get index = .error (b.refusal index) := by
  rw [get, check_of_outside h]
  rfl

theorem set_of_inside (h : 0 ≤ index ∧ index < b.size) (value : Int) :
    b.set index value = .ok (b.write index.toNat (.ofInt value)) := by
  rw [set, check_of_inside h]
  rfl

theorem set_of_outside (h : ¬ (0 ≤ index ∧ index < b.size)) (value : Int) :
    b.set index value = .error (b.refusal index) := by
  rw [set, check_of_outside h]
  rfl

theorem get_succeeds_iff : (∃ cell, b.get index = .ok cell) ↔ 0 ≤ index ∧ index < b.size := by
  constructor
  · rintro ⟨cell, hcell⟩
    by_contra hout
    rw [get_of_outside hout] at hcell
    cases hcell
  · intro hin
    exact ⟨_, get_of_inside hin⟩

theorem set_succeeds_iff (value : Int) :
    (∃ stored, b.set index value = .ok stored) ↔ 0 ≤ index ∧ index < b.size := by
  constructor
  · rintro ⟨stored, hstored⟩
    by_contra hout
    rw [set_of_outside hout] at hstored
    cases hstored
  · intro hin
    exact ⟨_, set_of_inside hin value⟩

end Check

/-- The bank is what its history says. -/
structure Remembers (kind : BankKind) (size : Nat) (history : List Access) (b : Bank) : Prop where
  kind_eq : b.kind = kind
  size_eq : b.size = size
  stored : ∀ place : Nat, place < size → ∀ value, LastSet history place value →
    b.read place = .ofInt value
  empty : ∀ place : Nat, place < size → (¬ ∃ value, LastSet history place value) → b.read place = 0

section Remembers

variable {kind : BankKind} {size : Nat} {history : List Access} {b : Bank}

theorem remembers_zeroed (kind : BankKind) (size : Nat) :
    Remembers kind size [] (zeroed kind size) where
  kind_eq := rfl
  size_eq := size_zeroed kind size
  stored _ _ _ h := absurd h not_lastSet_nil
  empty place _ _ := read_zeroed kind size place

/-- A bank that stays as it is remembers a longer history as well, if that has nothing new for its
cells. -/
theorem Remembers.stay {longer : List Access} (h : Remembers kind size history b)
    (hsame : ∀ place : Nat, place < size → ∀ value,
      LastSet longer place value ↔ LastSet history place value) :
    Remembers kind size longer b where
  kind_eq := h.kind_eq
  size_eq := h.size_eq
  stored place hplace value hlast :=
    h.stored place hplace value ((hsame place hplace value).mp hlast)
  empty place hplace hnone := by
    simp only [hsame place hplace] at hnone
    exact h.empty place hplace hnone

theorem Remembers.clear (h : Remembers kind size history b) :
    Remembers kind size (history ++ [.clear]) b.clear where
  kind_eq := h.kind_eq
  size_eq := (size_clear b).trans h.size_eq
  stored _ _ _ hlast := absurd hlast not_lastSet_clear
  empty place _ _ := read_zeroed b.kind b.size place

theorem Remembers.write (h : Remembers kind size history b) {place : Nat} (hplace : place < size)
    (value : Int) :
    Remembers kind size (history ++ [.set place value]) (b.write place (.ofInt value)) where
  kind_eq := h.kind_eq
  size_eq := (size_write b place _).trans h.size_eq
  stored other hother v hlast := by
    rw [read_write b (h.size_eq.symm ▸ hplace)]
    split
    · rename_i heq
      subst heq
      rw [lastSet_set_self.mp hlast]
    · rename_i hne
      have hne' : (place : Int) ≠ other := by omega
      exact h.stored other hother v ((lastSet_set_of_ne hne').mp hlast)
  empty other hother hnone := by
    have hne : other ≠ place := by
      rintro rfl
      exact hnone ⟨value, lastSet_set_self.mpr rfl⟩
    have hne' : (place : Int) ≠ other := by omega
    simp only [lastSet_set_of_ne hne'] at hnone
    rw [read_write b (h.size_eq.symm ▸ hplace), if_neg hne]
    exact h.empty other hother hnone

theorem remembers_access (h : Remembers kind size history b) (a : Access) :
    Remembers kind size (history ++ [a]) (b.access a).1 := by
  cases a with
  | get index => exact h.stay fun place _ value => lastSet_get
  | clear => exact h.clear
  | set index value =>
    by_cases hin : 0 ≤ index ∧ index < b.size
    · rw [access, set_of_inside hin]
      obtain ⟨place, rfl⟩ := Int.eq_ofNat_of_zero_le hin.1
      exact h.write (by rw [← h.size_eq]; omega) value
    · rw [access, set_of_outside hin]
      -- The index is none of the places that are remembered.
      refine h.stay fun place hplace v => lastSet_set_of_ne ?_
      rintro rfl
      exact hin (by rw [h.size_eq]; omega)

theorem remembers_accessAll (kind : BankKind) (size : Nat) (history : List Access) :
    Remembers kind size history ((zeroed kind size).accessAll history) := by
  -- From the last access on, since what is remembered is about the latest ones.
  induction history using List.reverseRecOn with
  | nil => exact remembers_zeroed kind size
  | append_singleton history a ih =>
    rw [accessAll, List.foldl_append]
    exact remembers_access ih a

end Remembers

end Bank

/-- The least number that has too many digits. -/
def Literal.overlong : Int := (Nat.pow 10 maxDigits : Nat)

end TickMachine
