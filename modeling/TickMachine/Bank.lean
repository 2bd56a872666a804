import TickMachine.Fault

namespace TickMachine

theorem Byte.toNat_ofInt (z : Int) : ((UInt8.ofInt z).toNat : Int) = z % 256 := by
  have hbyte : (UInt8.ofInt z).toNat = (z % 256).toNat % 256 := rfl
  rw [hbyte]
  omega

structure Bank where
  kind : BankKind
  cells : List UInt8
deriving DecidableEq, Repr

namespace Bank

def zeroed (kind : BankKind) (size : Nat) : Bank := ⟨kind, List.replicate size 0⟩

def size (b : Bank) : Nat := b.cells.length

/-- A refusal names the index, unless the index has too many digits to be named. -/
def refusal (b : Bank) (index : Int) : Trap :=
  if Literal.isWritable index then .fault (.outOfBank b.kind index) else .unwritable

def check (b : Bank) (index : Int) : Except Trap Nat :=
  if 0 ≤ index ∧ index < b.size then .ok index.toNat else .error (b.refusal index)

def read (b : Bank) (place : Nat) : UInt8 := b.cells.getD place 0

def write (b : Bank) (place : Nat) (value : UInt8) : Bank :=
  { b with cells := b.cells.set place value }

def get (b : Bank) (index : Int) : Except Trap UInt8 := b.read <$> b.check index

/-- Stores the lowest eight bits of a number. -/
def set (b : Bank) (index value : Int) : Except Trap Bank :=
  (b.write · (UInt8.ofInt value)) <$> b.check index

def clear (b : Bank) : Bank := zeroed b.kind b.size

def dump (b : Bank) : List Int := b.cells.map fun cell => (cell.toNat : Int)

@[simp]
theorem size_zeroed (kind : BankKind) (n : Nat) : (zeroed kind n).size = n := by
  simp [zeroed, size]

@[simp]
theorem size_write (b : Bank) (place : Nat) (value : UInt8) :
    (b.write place value).size = b.size := by
  simp [write, size]

@[simp]
theorem size_clear (b : Bank) : b.clear.size = b.size := by simp [clear]

@[simp]
theorem length_dump (b : Bank) : b.dump.length = b.size := by simp [dump, size]

theorem read_write (b : Bank) {place : Nat} (h : place < b.size) (value : UInt8) (other : Nat) :
    (b.write place value).read other = if other = place then value else b.read other := by
  unfold read write size at *
  by_cases ho : other = place
  · subst ho; simp [h]
  · have : place ≠ other := fun e => ho e.symm
    simp [ho, this]

theorem check_eq_ok_iff {b : Bank} {index : Int} {place : Nat} :
    b.check index = .ok place ↔ index = place ∧ place < b.size := by
  unfold check
  split
  · constructor
    · intro h; cases h; omega
    · rintro ⟨h, _⟩; simp [h]
  · constructor
    · intro h; cases h
    · rintro ⟨h, _⟩; omega

end Bank
end TickMachine
