import TickMachine.Source

namespace TickMachine

/-- A path in its plain form: no empty parts and no parts that stay in place. -/
structure Path where
  /-- Empty for a path that starts where the command runs. -/
  root : String
  parts : List String
deriving DecidableEq, Repr

namespace Path

/-- Exactly two slashes in front mean a root of their own; any other number is one root. -/
def rootOf (slashes : Nat) : String :=
  match slashes with
  | 0 => ""
  | 2 => "//"
  | _ => "/"

def ofString (s : String) : Path where
  root := rootOf (s.toList.takeWhile (· = '/')).length
  parts := ((s.toList.splitOn '/').map String.ofList).filter fun part => part ≠ "" ∧ part ≠ "."

def text (p : Path) : String :=
  if p.root = "" ∧ p.parts = [] then "." else p.root ++ "/".intercalate p.parts

end Path

/-- The files of the folder in which the command runs. It has no folders inside it, and nothing is
known to lie outside it. -/
structure Folder where
  files : List (String × List UInt8)

namespace Folder

def maxPathBytes : Nat := 4095

def maxPartBytes : Nat := 255

/-- Follows the parts of a path; `inside` as long as they have not left the folder. -/
def walk (f : Folder) (path : String) (inside : Bool) : List String → Except FileError (List UInt8)
  | [] => .error (.isDirectory path)
  | part :: rest =>
    if part = ".." then f.walk path false rest
    else if maxPartBytes < part.utf8ByteSize then .error (.nameTooLong path)
    else
      match if inside then f.files.lookup part else none with
      | none => .error (.notFound path)
      | some bytes => if rest.isEmpty then .ok bytes else .error (.notDirectory path)

def read (f : Folder) (p : Path) : Except FileError (List UInt8) :=
  let path := p.text
  if path.toList.contains '\x00' then .error .embeddedNul
  else if maxPathBytes < path.utf8ByteSize then .error (.nameTooLong path)
  else f.walk path (p.root = "") p.parts

end Folder
end TickMachine
