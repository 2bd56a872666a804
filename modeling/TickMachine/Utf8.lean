import TickMachine.Text.Hex

namespace TickMachine.Utf8

inductive Reason where
  | invalidStart
  | invalidContinuation
  | unexpectedEnd
deriving DecidableEq, Repr

/-- The bytes from `first` up to but not including `stop` are malformed, and `byte` is their first.
-/
structure DecodeError where
  byte : UInt8
  first : Nat
  stop : Nat
  reason : Reason
deriving DecidableEq, Repr

def Reason.text : Reason → String
  | .invalidStart => "invalid start byte"
  | .invalidContinuation => "invalid continuation byte"
  | .unexpectedEnd => "unexpected end of data"

def DecodeError.message (e : DecodeError) : String :=
  let place :=
    if e.stop = e.first + 1 then
      "byte 0x" ++ String.ofList (Text.hexPadded 2 e.byte.toNat) ++ " in position " ++
        toString e.first
    else "bytes in position " ++ toString e.first ++ "-" ++ toString (e.stop - 1)
  "'utf-8' codec can't decode " ++ place ++ ": " ++ e.reason.text

/-- A sequence that has begun: where, how many bytes are still due, the value so far, and the range
in which the next byte has to lie. -/
structure Pending where
  byte : UInt8
  first : Nat
  due : Nat
  code : Nat
  low : Nat
  high : Nat

/-- The start of a sequence of two to four bytes. The range for the second byte leaves out overlong
forms, surrogates and values past the last code point. -/
def Pending.start (position : Nat) (byte : UInt8) : Option Pending :=
  let b := byte.toNat
  if 0xC2 ≤ b ∧ b ≤ 0xDF then some ⟨byte, position, 1, b - 0xC0, 0x80, 0xBF⟩
  else if b = 0xE0 then some ⟨byte, position, 2, 0, 0xA0, 0xBF⟩
  else if b = 0xED then some ⟨byte, position, 2, 13, 0x80, 0x9F⟩
  else if 0xE1 ≤ b ∧ b ≤ 0xEF then some ⟨byte, position, 2, b - 0xE0, 0x80, 0xBF⟩
  else if b = 0xF0 then some ⟨byte, position, 3, 0, 0x90, 0xBF⟩
  else if 0xF1 ≤ b ∧ b ≤ 0xF3 then some ⟨byte, position, 3, b - 0xF0, 0x80, 0xBF⟩
  else if b = 0xF4 then some ⟨byte, position, 3, 4, 0x80, 0x8F⟩
  else none

def Pending.extend (p : Pending) (byte : UInt8) : Pending :=
  { p with due := p.due - 1, code := 64 * p.code + (byte.toNat - 0x80), low := 0x80, high := 0xBF }

def Pending.fail (p : Pending) (position : Nat) (reason : Reason) : DecodeError :=
  ⟨p.byte, p.first, position, reason⟩

/-- `done` holds the characters read so far, last one first. -/
def decodeFrom (position : Nat) (pending : Option Pending) (done : List Char) :
    List UInt8 → Except DecodeError (List Char)
  | [] =>
    match pending with
    | none => .ok done.reverse
    | some p => .error (p.fail position .unexpectedEnd)
  | byte :: rest =>
    match pending with
    | none =>
      if byte.toNat < 0x80 then decodeFrom (position + 1) none (Char.ofNat byte.toNat :: done) rest
      else
        match Pending.start position byte with
        | none => .error ⟨byte, position, position + 1, .invalidStart⟩
        | some p => decodeFrom (position + 1) (some p) done rest
    | some p =>
      if p.low ≤ byte.toNat ∧ byte.toNat ≤ p.high then
        if p.due = 1 then
          decodeFrom (position + 1) none (Char.ofNat (p.extend byte).code :: done) rest
        else decodeFrom (position + 1) (some (p.extend byte)) done rest
      else .error (p.fail position .invalidContinuation)

def decode (bytes : List UInt8) : Except DecodeError (List Char) := decodeFrom 0 none [] bytes

example : decode [0x61, 0xC3, 0xA9, 0xE2, 0x82, 0xAC, 0xF0, 0x9F, 0x98, 0x80] =
    .ok "aé€😀".toList := by
  cbv

example : [decode [0xE0, 0x80, 0xAF], decode [0xE2, 0x82], decode [0x41, 0xFF],
    decode [0xF0, 0x9F, 0x41]] =
    [.error ⟨0xE0, 0, 1, .invalidContinuation⟩, .error ⟨0xE2, 0, 2, .unexpectedEnd⟩,
     .error ⟨0xFF, 1, 2, .invalidStart⟩, .error ⟨0xF0, 0, 2, .invalidContinuation⟩] := by
  cbv

end TickMachine.Utf8
