import TickMachine.Utf8

namespace TickMachine.Utf8

/-- A byte behind the first of its sequence, for the last six bits of a number. -/
def trail (n : Nat) : UInt8 := .ofNat (n % 64 + 128)

theorem toNat_ofNat_of_lt {n : Nat} (h : n < 256) : (UInt8.ofNat n).toNat = n :=
  UInt8.toNat_ofNat_of_lt' h

theorem toNat_trail (n : Nat) : (trail n).toNat = n % 64 + 128 := toNat_ofNat_of_lt (by omega)

namespace Pending

variable {p : Pending} {due n : Nat}

/-- So many bytes are due, and the first of them may be the one that makes the value `n`. -/
structure Awaits (p : Pending) (due n : Nat) : Prop where
  due : p.due = due
  code : p.code = n / 64
  low : p.low ≤ n % 64 + 128
  high : n % 64 + 128 ≤ p.high

theorem Awaits.of_range {byte : UInt8} {first code low high : Nat} (hcode : code = n / 64)
    (hlow : low ≤ n % 64 + 128) (hhigh : n % 64 + 128 ≤ high) :
    Awaits ⟨byte, first, due, code, low, high⟩ due n := ⟨rfl, hcode, hlow, hhigh⟩

theorem Awaits.code_extend (h : p.Awaits due n) : (p.extend (trail n)).code = n := by
  simp only [extend, toNat_trail, h.code]
  omega

theorem Awaits.extend (h : p.Awaits (due + 1) (n / 64)) :
    (p.extend (trail (n / 64))).Awaits due n := by
  have hdue : p.due - 1 = due := by rw [h.due, Nat.add_sub_cancel]
  have hlow : 128 ≤ n % 64 + 128 := by omega
  have hhigh : n % 64 + 128 ≤ 191 := by omega
  exact ⟨hdue, h.code_extend, hlow, hhigh⟩

variable (position : Nat)

theorem start_of_two (hlow : 128 ≤ n) (hhigh : n ≤ 2047) :
    ∃ p, start position (.ofNat (n / 64 % 32 + 192)) = some p ∧ p.Awaits 1 n := by
  have hbyte : n / 64 % 32 = n / 64 := by omega
  unfold start
  rw [hbyte, toNat_ofNat_of_lt (by omega)]
  simp only
  rw [if_pos (by omega)]
  exact ⟨_, rfl, .of_range (by omega) (by omega) (by omega)⟩

theorem start_of_three (hlow : 2048 ≤ n) (hhigh : n ≤ 65535) (hvalid : n.isValidChar) :
    ∃ p, start position (.ofNat (n / 4096 % 16 + 224)) = some p ∧ p.Awaits 2 (n / 64) := by
  have hbyte : n / 4096 % 16 = n / 64 / 64 := by omega
  unfold Nat.isValidChar at hvalid
  unfold start
  rw [hbyte, toNat_ofNat_of_lt (by omega)]
  simp only
  rw [if_neg (by omega)]
  by_cases hfirst : n / 64 / 64 + 224 = 224
  · rw [if_pos hfirst]
    exact ⟨_, rfl, .of_range (by omega) (by omega) (by omega)⟩
  rw [if_neg hfirst]
  by_cases hsurrogate : n / 64 / 64 + 224 = 237
  · rw [if_pos hsurrogate]
    exact ⟨_, rfl, .of_range (by omega) (by omega) (by omega)⟩
  rw [if_neg hsurrogate, if_pos (by omega)]
  exact ⟨_, rfl, .of_range (by omega) (by omega) (by omega)⟩

theorem start_of_four (hlow : 65535 < n) (hhigh : n < 1114112) :
    ∃ p, start position (.ofNat (n / 262144 % 8 + 240)) = some p ∧ p.Awaits 3 (n / 64 / 64) := by
  have hbyte : n / 262144 % 8 = n / 64 / 64 / 64 := by omega
  unfold start
  rw [hbyte, toNat_ofNat_of_lt (by omega)]
  simp only
  rw [if_neg (by omega), if_neg (by omega), if_neg (by omega), if_neg (by omega)]
  by_cases hfirst : n / 64 / 64 / 64 + 240 = 240
  · rw [if_pos hfirst]
    exact ⟨_, rfl, .of_range (by omega) (by omega) (by omega)⟩
  rw [if_neg hfirst]
  by_cases hmiddle : 241 ≤ n / 64 / 64 / 64 + 240 ∧ n / 64 / 64 / 64 + 240 ≤ 243
  · rw [if_pos hmiddle]
    exact ⟨_, rfl, .of_range (by omega) (by omega) (by omega)⟩
  rw [if_neg hmiddle, if_pos (by omega)]
  exact ⟨_, rfl, .of_range (by omega) (by omega) (by omega)⟩

end Pending

section Sequence

variable {position n due : Nat} {p : Pending} {done : List Char} {rest : List UInt8}

theorem decodeFrom_ascii (h : n ≤ 127) :
    decodeFrom position none done (.ofNat n :: rest) =
      decodeFrom (position + 1) none (Char.ofNat n :: done) rest := by
  rw [decodeFrom, toNat_ofNat_of_lt (by omega), if_pos (by omega)]

theorem decodeFrom_lead {byte : UInt8} (hhigh : 128 ≤ byte.toNat)
    (h : Pending.start position byte = some p) :
    decodeFrom position none done (byte :: rest) =
      decodeFrom (position + 1) (some p) done rest := by
  rw [decodeFrom, if_neg (by omega), h]

theorem decodeFrom_trail (h : p.Awaits (due + 2) n) :
    decodeFrom position (some p) done (trail n :: rest) =
      decodeFrom (position + 1) (some (p.extend (trail n))) done rest := by
  rw [decodeFrom, toNat_trail, if_pos ⟨h.low, h.high⟩, if_neg (by rw [h.due]; omega)]

theorem decodeFrom_last (h : p.Awaits 1 n) :
    decodeFrom position (some p) done (trail n :: rest) =
      decodeFrom (position + 1) none (Char.ofNat n :: done) rest := by
  rw [decodeFrom, toNat_trail, if_pos ⟨h.low, h.high⟩, if_pos h.due, h.code_extend]

end Sequence

theorem decodeFrom_char (c : Char) (position : Nat) (done : List Char) (rest : List UInt8) :
    ∃ position', decodeFrom position none done (String.utf8EncodeChar c ++ rest) =
      decodeFrom position' none (c :: done) rest := by
  have hvalid : c.val.toNat.isValidChar := c.valid
  have hc : Char.ofNat c.val.toNat = c := Char.ofNat_toNat c
  simp only [String.utf8EncodeChar]
  generalize c.val.toNat = n at hvalid hc ⊢
  subst hc
  have hlt : n < 1114112 := by unfold Nat.isValidChar at hvalid; omega
  -- A sequence has one to four bytes, by the size of the number.
  by_cases hone : n ≤ 127
  · rw [if_pos hone]
    exact ⟨_, decodeFrom_ascii hone⟩
  rw [if_neg hone]
  by_cases htwo : n ≤ 2047
  · obtain ⟨p, hstart, hp⟩ := Pending.start_of_two position (by omega) htwo
    rw [if_pos htwo]
    exact ⟨_, (decodeFrom_lead (by rw [toNat_ofNat_of_lt] <;> omega) hstart).trans
      (decodeFrom_last hp)⟩
  rw [if_neg htwo]
  by_cases hthree : n ≤ 65535
  · obtain ⟨p, hstart, hp⟩ := Pending.start_of_three position (by omega) hthree hvalid
    rw [if_pos hthree]
    exact ⟨_, (decodeFrom_lead (by rw [toNat_ofNat_of_lt] <;> omega) hstart).trans
      ((decodeFrom_trail hp).trans (decodeFrom_last hp.extend))⟩
  · obtain ⟨p, hstart, hp⟩ := Pending.start_of_four position (by omega) hlt
    have hmiddle : n / 4096 = n / 64 / 64 := by omega
    rw [if_neg hthree, hmiddle]
    exact ⟨_, (decodeFrom_lead (by rw [toNat_ofNat_of_lt] <;> omega) hstart).trans
      ((decodeFrom_trail hp).trans
        ((decodeFrom_trail hp.extend).trans (decodeFrom_last hp.extend.extend)))⟩

theorem decodeFrom_chars (cs : List Char) (position : Nat) (done : List Char) :
    decodeFrom position none done (cs.flatMap String.utf8EncodeChar) =
      .ok (done.reverse ++ cs) := by
  induction cs generalizing position done with
  | nil => simp [decodeFrom]
  | cons c cs ih =>
    obtain ⟨position', h⟩ := decodeFrom_char c position done (cs.flatMap String.utf8EncodeChar)
    rw [List.flatMap_cons, h, ih]
    simp

def encode (text : String) : List UInt8 := text.toUTF8.data.toList

theorem encode_eq (text : String) : encode text = text.toList.flatMap String.utf8EncodeChar := by
  have h : (String.ofList text.toList).toByteArray = text.toList.utf8Encode :=
    String.toByteArray_ofList
  rw [String.ofList_toList] at h
  rw [encode, String.toUTF8, h, List.utf8Encode, List.toList_data_toByteArray]

theorem decode_encode (text : String) : decode (encode text) = .ok text.toList := by
  rw [decode, encode_eq, decodeFrom_chars]
  rfl

end TickMachine.Utf8
