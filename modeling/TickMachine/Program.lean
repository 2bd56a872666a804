import TickMachine.Fault
import TickMachine.Signal
import TickMachine.Text.Words

namespace TickMachine

/-- Labels with the index of their line, in the order of their first declaration. -/
structure LabelTable where
  entries : List (String × Nat)
deriving DecidableEq, Repr

namespace LabelTable

def empty : LabelTable := ⟨[]⟩

def find? (t : LabelTable) (name : String) : Option Nat := t.entries.lookup name

/-- A label that is declared again keeps its place in the table. -/
def declare (t : LabelTable) (name : String) (index : Nat) : LabelTable :=
  if (t.find? name).isSome then
    ⟨t.entries.map fun entry => if entry.1 = name then (name, index) else entry⟩
  else ⟨t.entries ++ [(name, index)]⟩

end LabelTable

namespace Line

def isLabel (text : String) : Bool := text.toList.head? = some Hardware.labelMarker

def labelName (text : String) : String := String.ofList (text.toList.drop 1)

def label? (line : String) : Option String :=
  if isLabel (Text.trim line) then some (labelName (Text.trim line)) else none

end Line

inductive FetchError where
  | outOfRange
  /-- The index has more than 64 bits. -/
  | tooWide
deriving DecidableEq, Repr

def FetchError.message : FetchError → String
  | .outOfRange => "tuple index out of range"
  | .tooWide => "cannot fit 'int' into an index-sized integer"

structure Program where
  lines : List String
  labels : LabelTable
deriving DecidableEq, Repr

namespace Program

def empty : Program := ⟨[], .empty⟩

def size (p : Program) : Nat := p.lines.length

/-- A table that grows line by line, with the records made on the way, last one first. -/
structure Survey where
  table : LabelTable
  records : List Record

def declaredRecord (name : String) (index : Nat) : Record :=
  ⟨.debug, "Label " ++ name ++ " @ " ++ toString index⟩

def redeclaredRecord (name : String) (index old : Nat) : Record :=
  ⟨.warning, "Label " ++ name ++ " @ " ++ toString old ++ " redeclared @ " ++ toString index⟩

def Survey.declare (s : Survey) (name : String) (index : Nat) : Survey where
  table := s.table.declare name index
  records :=
    declaredRecord name index :: ((s.table.find? name).map (redeclaredRecord name index)).toList
      ++ s.records

def Survey.addLine (s : Survey) (line : String × Nat) : Survey :=
  match Line.label? line.1 with
  | some name => s.declare name line.2
  | none => s

def survey (lines : List String) : Survey := lines.zipIdx.foldl Survey.addLine ⟨.empty, []⟩

/-- Nothing is checked but the labels; a line is understood when it is executed. -/
def parse (source : String) : Program :=
  ⟨Text.lines source, (survey (Text.lines source)).table⟩

def notices (source : String) : List Record := (survey (Text.lines source)).records.reverse

def lineFrom (p : Program) (place : Int) : Except FetchError String :=
  if place < 0 then .error .outOfRange
  else
    match p.lines[place.toNat]? with
    | some line => .ok line
    | none => .error .outOfRange

/-- The line at an index; negative indices count from the end. -/
def lineAt (p : Program) (index : Int) : Except FetchError String :=
  if index < -Hardware.indexLimit ∨ Hardware.indexLimit ≤ index then .error .tooWide
  else if index < 0 then p.lineFrom (index + p.size)
  else p.lineFrom index

/-- Where a jump leads: a label goes before a number. -/
def resolve (p : Program) (target : String) : Except Trap Int :=
  match p.labels.find? target with
  | some index => .ok index
  | none =>
    match Literal.read target with
    | .value index => .ok index
    | .oversized digits => .error (.oversizedLiteral digits)
    | .notInteger => .error (.fault (.unresolved target))

end Program
end TickMachine
