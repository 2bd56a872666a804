import TickMachine.Text.Quoted
import TickMachine.Text.Newline
import TickMachine.Utf8

namespace TickMachine

inductive FileError where
  | notFound (path : String)
  | isDirectory (path : String)
  | notDirectory (path : String)
  | nameTooLong (path : String)
  | permissionDenied (path : String)
  /-- Any other refusal, in the words of the system. -/
  | refused (reason : String)
  /-- No path contains a NUL, so the file system is not even asked. -/
  | embeddedNul
deriving DecidableEq, Repr

def FileError.message : FileError → String
  | notFound path => "[Errno 2] No such file or directory: " ++ Text.quoted path
  | isDirectory path => "[Errno 21] Is a directory: " ++ Text.quoted path
  | notDirectory path => "[Errno 20] Not a directory: " ++ Text.quoted path
  | nameTooLong path => "[Errno 36] File name too long: " ++ Text.quoted path
  | permissionDenied path => "[Errno 13] Permission denied: " ++ Text.quoted path
  | refused reason => reason
  | embeddedNul => "embedded null byte"

inductive SourceError where
  | unreadable (e : FileError)
  | undecodable (e : Utf8.DecodeError)
  | disconnected
deriving DecidableEq, Repr

def SourceError.message : SourceError → String
  | unreadable e => e.message
  | undecodable e => e.message
  | disconnected => ""

inductive Source where
  | text (s : String)
  /-- What reading the file gives at this moment. -/
  | file (contents : Except FileError (List UInt8))
  /-- No provider stands behind the source. -/
  | disconnected

namespace Source

/-- The text of a file: strict UTF-8, with every kind of line end read as a line feed. -/
def textOfBytes (bytes : List UInt8) : Except Utf8.DecodeError String :=
  (Utf8.decode bytes).map fun cs => String.ofList (Text.unifyNewlines cs)

def read : Source → Except SourceError String
  | text s => .ok s
  | file (.ok bytes) => (textOfBytes bytes).mapError .undecodable
  | file (.error e) => .error (.unreadable e)
  | disconnected => .error .disconnected

end Source
end TickMachine
