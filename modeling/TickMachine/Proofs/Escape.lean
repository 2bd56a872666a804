import TickMachine.Proofs.LoadLine
import TickMachine.Proofs.Operands
import TickMachine.Proofs.Rate
import TickMachine.Proofs.Writable

namespace TickMachine

def Literal.isOversized : Literal → Bool
  | .oversized _ => true
  | _ => false

/-- No word of a program has too many digits to be read. -/
def Program.Legible (p : Program) : Prop :=
  ∀ line ∈ p.lines, ∀ word ∈ Text.words (Text.trim line), (Literal.read word).isOversized = false

instance (p : Program) : Decidable p.Legible := by
  unfold Program.Legible
  infer_instance

namespace Cpu

variable {c : Cpu} {index : Int}

/-- The line at an index spells an instruction that stumbles over an integer of so many digits. -/
def StumblesAt (c : Cpu) (index : Int) (digits : Nat) : Prop :=
  ∃ i k, c.program.instructionAt? index = some i ∧ i.StumblesOver c.program c.machine k digits

/-- A failure that the line at an index gives rise to: an integer with too many digits, or an index
that does not fit into 64 bits. -/
def FailsWith (c : Cpu) (index : Int) (e : Failure) : Prop :=
  Hardware.indexLimit ≤ index ∧ e = .fetch .tooWide ∨
    ∃ digits, c.StumblesAt index digits ∧ e = .trap (.oversizedLiteral digits)

theorem next_eq_error_iff {r : Except Trap (Option Int)} (hr : r ≠ .error .unwritable)
    {e : Failure} :
    next index r = .error e ↔
      ∃ digits, r = .error (.oversizedLiteral digits) ∧ e = .trap (.oversizedLiteral digits) := by
  match r, hr with
  | .ok target, _ => simp [next]
  | .error (.fault f), _ => simp [next]
  | .error .emptyCallStack, _ => simp [next]
  | .error .halt, _ => simp [next]
  | .error (.oversizedLiteral digits), _ => simp [next, eq_comm]

theorem worked_eq_oversized_iff {i : Instruction} {digits : Nat} :
    (c.worked index i).1 = .error (.oversizedLiteral digits) ↔
      ∃ k, i.StumblesOver c.program c.machine k digits :=
  worked_eq_error_iff.trans Instruction.effect_oversized_iff

theorem step_eq_error_iff (hin : c.inProgram index = true) {e : Failure} :
    (c.step index).result = .error e ↔ c.FailsWith index e := by
  unfold FailsWith
  obtain ⟨hlow, hhigh⟩ : 0 ≤ index ∧ index < c.program.size := by simpa [inProgram] using hin
  by_cases hwide : Hardware.indexLimit ≤ index
  -- No line can be fetched at such an index, so none can stumble there.
  · have hl : c.program.lineAt index = .error .tooWide := Program.lineAt_of_wide hwide
    rw [step_of_fetch_error hl]
    constructor
    · intro h
      cases h
      exact .inl ⟨hwide, rfl⟩
    · rintro (⟨_, rfl⟩ | ⟨digits, ⟨i, k, hi, _⟩, _⟩)
      · rfl
      · simp [Program.instructionAt?, hl] at hi
  obtain ⟨line, hl⟩ := Program.exists_lineAt hlow hhigh (by omega)
  cases hi : c.program.instructionAt? index with
  | none =>
    -- Blank lines, labels and lines that cannot be decoded are passed over.
    rw [(step_of_no_instruction hl hi).2]
    constructor
    · intro h
      cases h
    · rintro (⟨h, _⟩ | ⟨digits, ⟨i, k, hi', _⟩, _⟩)
      · exact absurd h hwide
      · rw [hi] at hi'
        cases hi'
  | some i =>
    have hr : (c.step index).result = next index (c.worked index i).1 := by
      rw [step_of_instruction hi]
      rfl
    have hw : (c.worked index i).1 ≠ .error .unwritable := by
      rw [Ne, worked_eq_error_iff]
      exact Instruction.effect_ne_unwritable
    rw [hr, next_eq_error_iff hw]
    constructor
    · rintro ⟨digits, hworked, rfl⟩
      obtain ⟨k, hk⟩ := worked_eq_oversized_iff.mp hworked
      exact .inr ⟨digits, ⟨i, k, hi, hk⟩, rfl⟩
    · rintro (⟨h, _⟩ | ⟨digits, ⟨j, k, hj, hk⟩, rfl⟩)
      · exact absurd h hwide
      · obtain rfl : i = j := by simpa [hi] using hj
        exact ⟨digits, worked_eq_oversized_iff.mpr ⟨k, hk⟩, rfl⟩

theorem not_stumblesAt_of_legible (h : c.program.Legible) {digits : Nat} :
    ¬ c.StumblesAt index digits := by
  rintro ⟨i, k, hi, r, token, _, htoken, ⟨hread, _⟩, _⟩
  obtain ⟨line, hl, _, hd⟩ := Program.instructionAt?_eq_some_iff.mp hi
  have hword := (Instruction.decode_spec hd).2 token (List.mem_of_getElem? htoken)
  have hfits := h line (Program.mem_lines_of_lineAt hl) token hword
  rw [hread] at hfits
  cases hfits

end Cpu

/-- The calls of a host that paces a run: ticks are by finite doubles. -/
def Operation.isHostCall : Operation → Bool
  | .start | .stop | .reset => true
  | .tick (.real x) => x.isFinite
  | _ => false

namespace Session

variable {s : Session} {source : String} {rate : Number} {op : Operation}

/-- A new session on a text, with a fixed rate and a display of the usual capacity. -/
def fresh (source : String) (rate : Number) : Session :=
  (onDisplay (.text source) (.fixed (.ofNumber rate))
    (.blank false (some Hardware.logCapacity))).session

/-- What holds of a session between the calls of its host. -/
structure Hosted (s : Session) (text : String) (value : Number) : Prop where
  source : s.source = .text text
  rate : s.rate = .fixed (.ofNumber value)
  program : s.scheduler.program = .empty ∨ s.scheduler.program = .parse text
  writable : s.scheduler.Writable

theorem hosted_fresh (source : String) (rate : Number) : (fresh source rate).Hosted source rate :=
  ⟨rfl, rfl, .inl rfl, Cpu.writable_of_empty Program.labelsInside_empty rfl⟩

theorem start_of_hosted (h : s.Hosted source rate) :
    s.start.result = .ok () ∧
      ∃ seconds, s.start.session.scheduler = (s.scheduler.load source).begin seconds := by
  obtain ⟨seconds, hinterval⟩ := RateControl.exists_interval_of_fixed rate
  have hsource : s.source.read = .ok source := by
    rw [h.source]
    rfl
  obtain ⟨hresult, hscheduler⟩ := start_of_interval hsource (h.rate ▸ hinterval)
  exact ⟨hresult, seconds, hscheduler⟩

theorem hosted_perform (h : s.Hosted source rate) (hop : op.isHostCall = true) :
    (s.perform op).session.Hosted source rate := by
  match op, hop with
  | .start, _ =>
    obtain ⟨-, seconds, hscheduler⟩ := start_of_hosted h
    have hstarted : (s.perform .start).session.scheduler = _ := hscheduler
    refine ⟨h.source, h.rate, .inr (congrArg Scheduler.program hstarted), ?_⟩
    rw [hstarted]
    exact Scheduler.writable_begin (s := s.scheduler.load source)
      (Program.labelsInside_parse source) h.writable.frames seconds
  | .stop, _ =>
    refine ⟨h.source, h.rate, ?_, Scheduler.writable_stop h.writable⟩
    change s.scheduler.stop.state.program = _ ∨ s.scheduler.stop.state.program = _
    unfold Scheduler.stop
    split <;> exact h.program
  | .reset, _ =>
    exact ⟨h.source, h.rate, h.program, Scheduler.writable_cleared h.writable.labels⟩
  | .tick (.real x), _ =>
    refine ⟨h.source, h.rate, ?_, Scheduler.writable_tick h.writable _⟩
    change (s.scheduler.tick _).state.program = _ ∨ (s.scheduler.tick _).state.program = _
    rw [Scheduler.program_of_tick]
    exact h.program

theorem hosted_performAll {ops : List Operation} (h : s.Hosted source rate)
    (hops : ∀ op ∈ ops, op.isHostCall = true) : (s.performAll ops).Hosted source rate := by
  induction ops generalizing s with
  | nil => exact h
  | cons op rest ih =>
    apply ih (hosted_perform h (hops op List.mem_cons_self))
    intro op' hop'
    exact hops op' (List.mem_cons_of_mem op hop')

theorem answered_eq_error_iff {α : Type} {f : α → Answer} {t : Turn α} {e : Failure} :
    (answered f t).result = .error e ↔ t.result = .error e := by
  unfold answered
  cases t.result <;> simp [Except.map]

theorem perform_eq_error_iff (h : s.Hosted source rate) (hop : op.isHostCall = true)
    {e : Failure} :
    (s.perform op).result = .error e ↔
      ∃ x, op = .tick (.real x) ∧ s.scheduler.Due x ∧
        s.scheduler.cpu.FailsWith s.scheduler.pc e := by
  match op, hop with
  | .start, _ => simp [perform, answered_eq_error_iff, (start_of_hosted h).1]
  | .stop, _ =>
    have hstop : s.stop.result = .ok () := by
      unfold stop absorb Scheduler.stop
      split <;> rfl
    simp [perform, answered_eq_error_iff, hstop]
  | .reset, _ =>
    have hreset : s.reset.result = .ok () := rfl
    simp [perform, answered_eq_error_iff, hreset]
  | .tick (.real x), _ =>
    have hdue : s.scheduler.Due x ∧ (s.scheduler.cpu.step s.scheduler.pc).result = .error e ↔
        s.scheduler.Due x ∧ s.scheduler.cpu.FailsWith s.scheduler.pc e :=
      and_congr_right fun hdue => Cpu.step_eq_error_iff hdue.2.2
    simp [perform, answered_eq_error_iff, result_tick,
      Scheduler.tick_eq_error_iff h.writable.not_lost, hdue]

theorem legible_of_hosted (h : s.Hosted source rate) (htext : (Program.parse source).Legible) :
    s.scheduler.program.Legible := by
  obtain hempty | hparsed := h.program
  · rw [hempty]
    intro line hline
    cases hline
  · rwa [hparsed]

theorem size_le_of_hosted (h : s.Hosted source rate) :
    s.scheduler.program.size ≤ (Program.parse source).size := by
  obtain hempty | hparsed := h.program
  · rw [hempty]
    exact Nat.zero_le _
  · exact Nat.le_of_eq (congrArg Program.size hparsed)

theorem perform_ok_of_legible (h : s.Hosted source rate) (hop : op.isHostCall = true)
    (htext : (Program.parse source).Legible)
    (hsize : (Program.parse source).size ≤ Hardware.indexLimit) :
    ∃ answer, (s.perform op).result = .ok answer := by
  cases hresult : (s.perform op).result with
  | ok answer => exact ⟨answer, rfl⟩
  | error e =>
    obtain ⟨x, _, ⟨_, _, hin⟩, ⟨hwide, _⟩ | ⟨digits, hstumbles, _⟩⟩ :=
      (perform_eq_error_iff h hop).mp hresult
    · have hlt : 0 ≤ s.scheduler.pc ∧ s.scheduler.pc < s.scheduler.program.size :=
        of_decide_eq_true hin
      have hle := size_le_of_hosted h
      omega
    · exact absurd hstumbles (Cpu.not_stumblesAt_of_legible (legible_of_hosted h htext))

end Session

/-- A step inside a program fails exactly when its line makes it fail. After any calls of the host,
one more call fails exactly when it is a tick that uses its slot on such a line, and never on a
legible text. -/
theorem failure_escapes_iff (c : Cpu) (index : Int) (e : Failure) :
    (c.inProgram index = true → ((c.step index).result = .error e ↔ c.FailsWith index e)) ∧
    ∀ (source : String) (rate : Number) (ops : List Operation) (op : Operation),
      (∀ earlier ∈ ops, earlier.isHostCall = true) → op.isHostCall = true →
      let s := (Session.fresh source rate).performAll ops
      (∀ e, (s.perform op).result = .error e ↔
        ∃ x, op = .tick (.real x) ∧ s.scheduler.Due x ∧
          s.scheduler.cpu.FailsWith s.scheduler.pc e) ∧
      ((Program.parse source).Legible → (Program.parse source).size ≤ Hardware.indexLimit →
        ∃ answer, (s.perform op).result = .ok answer) := by
  refine ⟨fun hin => Cpu.step_eq_error_iff hin, ?_⟩
  intro source rate ops op hops hop s
  have hs : s.Hosted source rate :=
    Session.hosted_performAll (Session.hosted_fresh source rate) hops
  exact ⟨fun e => Session.perform_eq_error_iff hs hop, Session.perform_ok_of_legible hs hop⟩

theorem failure_escapes_iff_ones :
    let t := Session.fresh (loadLine (ones (Literal.maxDigits + 1))) (.int 2)
    let e := Failure.trap (.oversizedLiteral (Literal.maxDigits + 1))
    (t.performAll [.start]).scheduler.cpu.FailsWith 0 e ∧
    ((t.performAll [.start]).perform (.tick (.real 1.0))).result = .error e ∧
    ∃ answer, (((Session.fresh "IMM 0 7" (.int 2)).performAll [.start]).perform
      (.tick (.real 1.0))).result = .ok answer := by
  intro t e
  have hops : ∀ earlier ∈ [Operation.start], earlier.isHostCall = true := by decide
  have hop : (Operation.tick (.real 1.0)).isHostCall = true := by decide +kernel
  have hinterval : (RateControl.fixed (.ofNumber (.int 2))).interval = .ok 0.5 := by decide +kernel
  obtain ⟨s, hs⟩ : ∃ s, t.performAll [.start] = s := ⟨_, rfl⟩
  obtain ⟨hstep, hcalls⟩ := failure_escapes_iff s.scheduler.cpu 0 e
  have hscheduler : s.scheduler =
      (t.scheduler.load (loadLine (ones (Literal.maxDigits + 1)))).begin 0.5 := by
    have hstart : ∀ u : Session, u.performAll [.start] = u.start.session := fun _ => rfl
    have hsource : t.source.read = .ok (loadLine (ones (Literal.maxDigits + 1))) := rfl
    have hrate : t.rate.interval = .ok 0.5 := hinterval
    rw [← hs, hstart]
    exact (Session.start_of_interval hsource hrate).2
  have hpc : s.scheduler.pc = 0 := by rw [hscheduler]; rfl
  obtain ⟨hin, hfails⟩ := step_ones (Nat.lt_succ_self Literal.maxDigits)
    (show s.scheduler.cpu.program = _ by rw [hscheduler]; rfl) (by rw [hscheduler]; decide)
  have hwith : s.scheduler.cpu.FailsWith 0 e := (hstep hin).mp hfails
  have hdue : s.scheduler.Due 1.0 := by
    refine ⟨by rw [hscheduler]; rfl, ?_, by rw [hpc]; exact hin⟩
    rw [hscheduler]
    decide +kernel
  refine ⟨hs ▸ hwith, ?_, ?_⟩
  · refine ((hcalls _ _ _ _ hops hop).1 e).mpr ?_
    rw [hs]
    exact ⟨1.0, rfl, hdue, by rw [hpc]; exact hwith⟩
  · exact (hcalls "IMM 0 7" _ _ _ hops hop).2 (by decide +kernel) (by decide +kernel)

end TickMachine
