import TickMachine.Proofs.Literal
import TickMachine.Proofs.Operands
import TickMachine.Proofs.Step
import TickMachine.Proofs.Words

namespace TickMachine

namespace Literal

variable {token : String} (h : Text.IsWord token)
include h

theorem no_pad_of_isWord : ∀ c ∈ token.toList, isPad c = false :=
  fun c hc => isPad_eq_false (h.no_blank c hc)

/-- A word is read in one of three ways, by the digits that it begins with and by whether these are
all of it. -/
theorem read_cases :
    maxDigits < (digitRun token).length ∧ read token = .oversized (digitRun token).length ∨
    (digitRun token).length ≤ maxDigits ∧
      (IsNumeral token ∧ read token = .value (numeralValue token) ∨
        ¬ IsNumeral token ∧ read token = .notInteger) := by
  have hread := read_eq (no_pad_of_isWord h)
  by_cases hlong : maxDigits < (digitRun token).length
  · exact .inl ⟨hlong, by rw [hread, if_pos hlong]⟩
  · rw [if_neg hlong] at hread
    refine .inr ⟨by omega, ?_⟩
    by_cases hnumeral : IsNumeral token
    · exact .inl ⟨hnumeral, by rw [hread, if_pos hnumeral]⟩
    · exact .inr ⟨hnumeral, by rw [hread, if_neg hnumeral]⟩

theorem spells_of_read {v : Int} (hv : read token = .value v) : Spells token v := by
  obtain ⟨_, hread⟩ | ⟨hshort, ⟨hnumeral, hread⟩ | ⟨_, hread⟩⟩ := read_cases h
  · rw [hread] at hv
    cases hv
  · have hrun : digitRun token = dropSign token.toList :=
      List.takeWhile_eq_self_iff.mpr (List.all_eq_true.mp hnumeral.2)
    rw [hread] at hv
    cases hv
    exact ⟨hnumeral, hrun ▸ hshort, rfl⟩
  · rw [hread] at hv
    cases hv

end Literal

namespace Role

variable {r : Role} {p : Program} {m : Machine} {token : String} {t : Trap}

def bank? (r : Role) (m : Machine) : Option Bank :=
  match r with
  | .register => some m.registers
  | .address => some m.memory
  | .number | .target => none

def notInteger (r : Role) (m : Machine) (token : String) : Fault :=
  match r with
  | .register => .notInteger m.registers.kind token
  | .address => .notInteger m.memory.kind token
  | .number => .badImmediate token
  | .target => .unresolved token

/-- Every operand is read as an integer, but for a target that is a label. -/
def Reads (r : Role) (p : Program) (token : String) : Prop :=
  r = .target → p.labels.find? token = none

/-- A token that cannot stand in a role, and the trap that says why. -/
inductive Refuses (r : Role) (p : Program) (m : Machine) (token : String) : Trap → Prop where
  | oversized (hreads : r.Reads p token)
      (hlong : Literal.maxDigits < (Literal.digitRun token).length) :
      Refuses r p m token (.oversizedLiteral (Literal.digitRun token).length)
  | notInteger (hreads : r.Reads p token)
      (hshort : (Literal.digitRun token).length ≤ Literal.maxDigits)
      (hnot : ¬ Literal.IsNumeral token) : Refuses r p m token (.fault (r.notInteger m token))
  | outside {b : Bank} (hbank : r.bank? m = some b)
      (hshort : (Literal.digitRun token).length ≤ Literal.maxDigits)
      (hnumeral : Literal.IsNumeral token)
      (hout : ¬ (0 ≤ Literal.numeralValue token ∧ Literal.numeralValue token < b.size)) :
      Refuses r p m token (.fault (.outOfBank b.kind (Literal.numeralValue token)))

/-- Where the number of an operand has to lie. -/
def judgeValue (r : Role) (m : Machine) (v : Int) : Except Trap Unit :=
  match r.bank? m with
  | some b => if 0 ≤ v ∧ v < b.size then .ok () else .error (.fault (.outOfBank b.kind v))
  | none => .ok ()

theorem judge_of_label (hlabel : ¬ r.Reads p token) : r.judge p m token = .ok () := by
  obtain ⟨rfl, hfound⟩ : r = .target ∧ p.labels.find? token ≠ none := by
    simpa [Reads] using hlabel
  obtain ⟨index, hindex⟩ := Option.ne_none_iff_exists'.mp hfound
  simp [judge, Program.resolve, hindex, Except.forget, Except.map]

theorem forget_locate (b : Bank) (token : String) : Except.forget (b.locate token) =
    match Literal.read token with
    | .value v => if 0 ≤ v ∧ v < b.size then .ok () else .error (.fault (.outOfBank b.kind v))
    | .oversized digits => .error (.oversizedLiteral digits)
    | .notInteger => .error (.fault (.notInteger b.kind token)) := by
  cases hread : Literal.read token with
  | oversized digits => simp [Bank.locate, hread, Except.forget, Except.map]
  | notInteger => simp [Bank.locate, hread, Except.forget, Except.map]
  | value v =>
    rw [Bank.locate_of_value b hread]
    by_cases hin : 0 ≤ v ∧ v < b.size <;> simp [hin, Except.forget, Except.map]

theorem judge_of_reads (hreads : r.Reads p token) : r.judge p m token =
    match Literal.read token with
    | .value v => r.judgeValue m v
    | .oversized digits => .error (.oversizedLiteral digits)
    | .notInteger => .error (.fault (r.notInteger m token)) := by
  cases r with
  | register => exact forget_locate m.registers token
  | address => exact forget_locate m.memory token
  | number =>
    rw [judge, Literal.number]
    cases Literal.read token <;> rfl
  | target =>
    rw [judge, Program.resolve, hreads rfl]
    cases Literal.read token <;> rfl

theorem reads_of_bank? {b : Bank} (hbank : r.bank? m = some b) : r.Reads p token := by
  rintro rfl
  cases hbank

theorem judge_eq_error_iff (hword : Text.IsWord token) :
    r.judge p m token = .error t ↔ r.Refuses p m token t := by
  have hread := Literal.read_eq (Literal.no_pad_of_isWord hword)
  constructor
  · intro h
    have hreads : r.Reads p token := by
      by_contra hlabel
      rw [judge_of_label hlabel] at h
      cases h
    rw [judge_of_reads hreads] at h
    -- How the token is read decides, but for a number: that may lie inside the bank or not.
    obtain ⟨hlong, hread⟩ | ⟨hshort, ⟨hnumeral, hread⟩ | ⟨hnot, hread⟩⟩ := Literal.read_cases hword
    · rw [hread] at h
      cases h
      exact .oversized hreads hlong
    · simp only [hread, judgeValue] at h
      split at h
      · rename_i b hbank
        split at h
        · cases h
        · rename_i hout
          cases h
          exact .outside hbank hshort hnumeral hout
      · cases h
    · rw [hread] at h
      cases h
      exact .notInteger hreads hshort hnot
  · intro h
    cases h with
    | oversized hreads hlong => rw [judge_of_reads hreads, hread, if_pos hlong]
    | notInteger hreads hshort hnot =>
      rw [judge_of_reads hreads, hread, if_neg (by omega), if_neg hnot]
    | outside hbank hshort hnumeral hout =>
      rw [judge_of_reads (reads_of_bank? hbank), hread, if_neg (by omega), if_pos hnumeral]
      simp only [judgeValue, hbank, if_neg hout]

end Role

namespace Instruction

variable {i : Instruction} {p : Program} {m : Machine} {t : Trap}

/-- The operand at place `n` cannot stand in a role: it is missing, or its token is refused. -/
inductive Refuses (i : Instruction) (p : Program) (m : Machine) (r : Role) (n : Nat) :
    Trap → Prop where
  | missing (h : i.operands.length ≤ n) : Refuses i p m r n (.fault (.malformed i.op i.text))
  | token {token : String} {t : Trap} (h : i.operands[n]? = some token)
      (hrefuses : r.Refuses p m token t) : Refuses i p m r n t

/-- Of the operands that the operation needs, the one at place `k` is the first that is refused. -/
def FailsAt (i : Instruction) (p : Program) (m : Machine) (k : Nat) (t : Trap) : Prop :=
  ∃ r, i.op.roles[k]? = some r ∧ i.Refuses p m r k t ∧
    ∀ j < k, ∀ q, i.op.roles[j]? = some q → ∀ u, ¬ i.Refuses p m q j u

theorem isWord_of_decode {text : String} (h : decode text = .ok i) :
    ∀ token ∈ i.operands, Text.IsWord token := by
  intro token htoken
  exact Text.isWord_of_mem_words ((decode_spec h).2 token htoken)

section Words

variable (hwords : ∀ token ∈ i.operands, Text.IsWord token)
include hwords

theorem look_eq_error_iff {r : Role} {n : Nat} :
    i.look p m r n = .error t ↔ i.Refuses p m r n t := by
  unfold look operand
  cases hn : i.operands[n]? with
  | none =>
    constructor
    · intro h
      cases h
      exact .missing (List.getElem?_eq_none_iff.mp hn)
    · rintro (_ | ⟨htoken, _⟩)
      · rfl
      · rw [hn] at htoken
        cases htoken
  | some token =>
    have hword := hwords token (List.mem_of_getElem? hn)
    change r.judge p m token = .error t ↔ _
    rw [Role.judge_eq_error_iff hword]
    constructor
    · exact .token hn
    · rintro (hmissing | ⟨htoken, hrefuses⟩)
      · rw [List.getElem?_eq_none_iff.mpr hmissing] at hn
        cases hn
      · rw [hn] at htoken
        cases htoken
        exact hrefuses

theorem look_eq_ok_iff {r : Role} {n : Nat} :
    i.look p m r n = .ok () ↔ ∀ u, ¬ i.Refuses p m r n u := by
  simp only [← look_eq_error_iff hwords]
  cases i.look p m r n <;> simp

theorem effect_eq_error_iff (hnoop : i.op ≠ .noop) (hret : i.op ≠ .ret) :
    i.effect p m = .error t ↔ ∃ k, i.FailsAt p m k t := by
  rw [← Except.forget_eq_error, forget_effect hnoop hret, examine_eq_error_iff]
  simp only [RefusedFirst, FailsAt, Nat.zero_add, look_eq_error_iff hwords, look_eq_ok_iff hwords]

end Words

theorem effect_of_failsAt {k : Nat} (hwords : ∀ token ∈ i.operands, Text.IsWord token)
    (h : i.FailsAt p m k t) : i.effect p m = .error t := by
  obtain ⟨r, hr, -⟩ := id h
  refine (effect_eq_error_iff hwords ?_ ?_).mpr ⟨k, h⟩
  · intro hop
    simp [hop, Op.roles] at hr
  · intro hop
    simp [hop, Op.roles] at hr

theorem kind_of_refuses {r : Role} {n : Nat} {f : Fault} (h : i.Refuses p m r n (.fault f)) :
    f.kind =
      if r = .target ∧ n < i.operands.length then .unresolvedTarget else .invalidOperand := by
  cases h with
  | missing hmissing =>
    rw [if_neg (by omega)]
    rfl
  | token htoken hrefuses =>
    have hlt : n < i.operands.length := (List.getElem?_eq_some_iff.mp htoken).1
    cases hrefuses with
    | notInteger => cases r <;> simp [Role.notInteger, Fault.kind, hlt]
    | outside hbank =>
      have hr : r ≠ .target := by
        rintro rfl
        cases hbank
      rw [if_neg fun hand => hr hand.1]
      rfl

end Instruction
end TickMachine
