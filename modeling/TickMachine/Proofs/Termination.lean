import TickMachine.Proofs.Escape
import TickMachine.Proofs.Forward
import TickMachine.Proofs.Loop
import TickMachine.Proofs.Refusal

namespace TickMachine

/-- No operand begins with more digits than are read. -/
def Program.ShortOperands (p : Program) : Prop :=
  ∀ index < p.size, ∀ i ∈ p.instructionAt? index, ∀ token ∈ i.operands,
    (Literal.digitRun token).length ≤ Literal.maxDigits

instance (p : Program) : Decidable p.ShortOperands := by
  unfold Program.ShortOperands
  infer_instance

namespace Loop

variable {l l' : Loop} {k : Nat}

/-- The loop comes to its end in so many rounds: it halts, or it fails in the round after them. -/
inductive EndsIn : Loop → Nat → Prop where
  | halted {l : Loop} (h : l.halted = true) : EndsIn l 0
  | fails {l : Loop} {e : Failure} (h : l.round = .error e) : EndsIn l 0
  | round {l l' : Loop} {k : Nat} (hrun : l.halted = false) (h : l.round = .ok l')
      (hrest : EndsIn l' k) : EndsIn l (k + 1)

/-- A round of a forward program keeps the frames in order, and lowers the budget unless it is the
last one. -/
theorem ascends_round (hforward : l.cpu.program.Forward) (h : l.cpu.Ascends l.index)
    (hrun : l.halted = false) (hround : l.round = .ok l') :
    l'.cpu.program = l.cpu.program ∧ l'.cpu.Ascends l'.index ∧
      (l'.halted = false → l'.cpu.budget l'.index < l.cpu.budget l.index) := by
  simp only [round, hrun, Bool.false_eq_true, if_false] at hround
  split at hround
  · rename_i hin
    split at hround
    · cases hround
    · rename_i hresult
      cases hround
      -- The step that halts has changed nothing.
      have hs : (l.cpu.step l.index).state = l.cpu.moveTo l.index := by
        apply Cpu.step_state_of_no_next
        intro next hnext
        rw [hresult] at hnext
        cases hnext
      rw [hs]
      exact ⟨rfl, ⟨h.nonneg, h.recorded, h.falling⟩, fun hgo => nomatch hgo⟩
    · rename_i next hresult
      cases hround
      obtain ⟨hascends, hlt⟩ := Cpu.ascends_step hforward h hin hresult
      exact ⟨l.cpu.step_program l.index, hascends, fun _ => hlt⟩
  · cases hround
    exact ⟨rfl, h, fun hgo => nomatch hgo⟩

theorem ascends_rounds {n : Nat} (hforward : l.cpu.program.Forward) (h : l.cpu.Ascends l.index)
    (hrounds : l.rounds n = .ok l') :
    l'.cpu.program = l.cpu.program ∧ l'.cpu.Ascends l'.index := by
  induction n generalizing l with
  | zero =>
    cases hrounds
    exact ⟨rfl, h⟩
  | succ n ih =>
    obtain ⟨l₁, hround, hrounds⟩ := Except.bind_eq_ok hrounds
    cases hrun : l.halted with
    | true =>
      rw [round, hrun] at hround
      cases hround
      exact ih hforward h hrounds
    | false =>
      obtain ⟨hprogram, hascends, -⟩ := ascends_round hforward h hrun hround
      obtain ⟨hlast, hascends'⟩ := ih (hprogram ▸ hforward) hascends hrounds
      exact ⟨hlast.trans hprogram, hascends'⟩

theorem exists_endsIn (hforward : l.cpu.program.Forward) (h : l.cpu.Ascends l.index) :
    ∃ k ≤ l.cpu.budget l.index, l.EndsIn k := by
  induction hb : l.cpu.budget l.index using Nat.strong_induction_on generalizing l with
  | h b ih =>
    subst hb
    cases hrun : l.halted with
    | true => exact ⟨0, Nat.zero_le _, .halted hrun⟩
    | false =>
      cases hround : l.round with
      | error e => exact ⟨0, Nat.zero_le _, .fails hround⟩
      | ok l' =>
        obtain ⟨hprogram, hascends, hless⟩ := ascends_round hforward h hrun hround
        cases hrun' : l'.halted with
        | true =>
          have hpos : 0 < l.cpu.budget l.index :=
            Nat.add_pos_left (l.cpu.program.cost_pos l.index) _
          exact ⟨1, hpos, .round hrun hround (.halted hrun')⟩
        | false =>
          obtain ⟨k, hk, hends⟩ := ih _ (hless hrun') (hprogram ▸ hforward) hascends rfl
          exact ⟨k + 1, Nat.lt_of_le_of_lt hk (hless hrun'), .round hrun hround hends⟩

theorem EndsIn.eq_zero_iff (h : l.EndsIn k) :
    k = 0 ↔ l.halted = true ∨ ∃ e, l.round = .error e := by
  cases h with
  | halted hhalted => simp [hhalted]
  | fails hfails => simp [hfails]
  | round hrun hround => simp [hrun, hround]

theorem round_eq_error_iff {e : Failure} (hrun : l.halted = false) :
    l.round = .error e ↔
      l.cpu.inProgram l.index = true ∧ (l.cpu.step l.index).result = .error e := by
  simp only [round, hrun, Bool.false_eq_true, if_false]
  split
  · rename_i hin
    split
    · rename_i hresult
      simp [hin, hresult]
    · rename_i hresult
      simp [hresult]
    · rename_i hresult
      simp [hresult]
  · rename_i hin
    simp [hin]

end Loop

namespace Session

variable {s t : Session} {log : LogBuffer} {l : Loop} {times : List Number} {used : List Bool}
  {k : Nat}

theorem endsIn_of_tickAll (hf : s.Follows log l) (hends : l.EndsIn k)
    (h : s.tickAll times = .ok (t, used)) :
    ∃ l' j, t.Follows log l' ∧ l'.EndsIn j ∧ used.count true + j = k := by
  induction times generalizing s l used k with
  | nil =>
    cases h
    exact ⟨l, k, hf, hends, Nat.zero_add k⟩
  | cons elapsed rest ih =>
    obtain ⟨first, hfirst, h⟩ := Except.bind_eq_ok h
    obtain ⟨⟨last, later⟩, hrest, h⟩ := Except.bind_eq_ok h
    cases h
    cases first with
    | false =>
      -- Only the timer has moved, and the loop has none.
      have hstill : (s.tick elapsed).session.Follows log l := by
        rw [tick_of_unused hfirst]
        exact ⟨hf.cpu, hf.pc, hf.runState, hf.events⟩
      simpa using ih hstill hends hrest
    | true =>
      obtain ⟨l₁, hround, hf₁⟩ := follows_of_used hf hfirst
      have hgo : l.halted = false := hf.halted_eq_false (Scheduler.running_of_used hfirst)
      cases hends with
      | halted hhalted => simp [hgo] at hhalted
      | fails hfails => simp [hround] at hfails
      | round _ hround' hleft =>
        obtain rfl := Except.ok.inj (hround.symm.trans hround')
        obtain ⟨l', j, hf', hends', hcount⟩ := ih hf₁ hleft hrest
        refine ⟨l', j, hf', hends', ?_⟩
        rw [List.count_cons_self]
        omega

/-- The run has halted, or its next slot will fail. -/
def IsOver (s : Session) : Prop :=
  s.runState = .halted ∨ ∃ e, s.scheduler.executeNext.result = .error e

theorem isOver_iff (hf : s.Follows log l) (hw : s.scheduler.Writable) :
    s.IsOver ↔ l.halted = true ∨ ∃ e, l.round = .error e := by
  have hstate : s.runState = if l.halted then .halted else .running := hf.runState
  unfold IsOver
  cases hrun : l.halted with
  | true => simp [hstate, hrun]
  | false =>
    simp [hstate, hrun, Scheduler.executeNext_eq_error_iff hw.not_lost, Loop.round_eq_error_iff,
      hf.cpu, hf.pc]

theorem writable_of_tickAll (hw : s.scheduler.Writable) (h : s.tickAll times = .ok (t, used)) :
    t.scheduler.Writable := by
  induction times generalizing s used with
  | nil =>
    cases h
    exact hw
  | cons elapsed rest ih =>
    obtain ⟨first, -, h⟩ := Except.bind_eq_ok h
    obtain ⟨⟨last, later⟩, hrest, h⟩ := Except.bind_eq_ok h
    cases h
    exact ih (Scheduler.writable_tick hw elapsed) hrest

theorem isOver_of_tickAll (hf : s.Follows log l) (hw : s.scheduler.Writable) (hends : l.EndsIn k)
    (h : s.tickAll times = .ok (t, used)) :
    used.count true ≤ k ∧ (used.count true = k ↔ t.IsOver) := by
  obtain ⟨l', j, hf', hleft, hcount⟩ := endsIn_of_tickAll hf hends h
  rw [isOver_iff hf' (writable_of_tickAll hw h), ← hleft.eq_zero_iff]
  omega

theorem ascends_of_tickAll (hf : s.Follows log l) (hforward : l.cpu.program.Forward)
    (hascends : l.cpu.Ascends l.index) (h : s.tickAll times = .ok (t, used)) :
    t.scheduler.program = l.cpu.program ∧ t.scheduler.cpu.Ascends t.scheduler.pc := by
  obtain ⟨l', hrounds, hf'⟩ := follows_of_tickAll hf h
  rw [Scheduler.program, hf'.cpu, hf'.pc]
  exact Loop.ascends_rounds hforward hascends hrounds

end Session

section Forever

open Float.Model

def forever : Float := 1.0 / 0.0

theorem unpack_add_forever (x : Float) :
    (x + forever).toModel.unpack = .infinity .positive ∨
      (x + forever).toModel.unpack = .notANumber := by
  have hsum : (x + forever).toModel =
      pack (.add .binary64 x.toModel.unpack (.infinity .positive)) := rfl
  have hadd (u : UnpackedFloat) :
      UnpackedFloat.add .binary64 u (.infinity .positive) = .infinity .positive ∨
        UnpackedFloat.add .binary64 u (.infinity .positive) = .notANumber := by
    cases u with
    | infinity sign =>
      cases sign with
      | positive => exact .inl rfl
      | negative => exact .inr rfl
    | notANumber => exact .inr rfl
    | zero | finite => exact .inl rfl
  obtain h | h := hadd x.toModel.unpack
  · exact .inl (by rw [hsum, h]; rfl)
  · exact .inr (by rw [hsum, h]; rfl)

theorem not_add_forever_lt (x y : Float) : ¬ x + forever < y := by
  intro h
  have hlt : (x + forever).toModel.unpack.compare y.toModel.unpack = some .lt :=
    eq_of_beq (of_decide_eq_true h)
  obtain hsum | hsum := unpack_add_forever x
  · rw [hsum] at hlt
    cases hy : y.toModel.unpack with
    | infinity sign => cases sign <;> (rw [hy] at hlt; cases hlt)
    | notANumber | zero | finite => rw [hy] at hlt; cases hlt
  · rw [hsum] at hlt
    cases hlt

end Forever

theorem Cpu.step_ok_of_short {c : Cpu} {index : Int} (hin : c.inProgram index = true)
    (hwide : index < Hardware.indexLimit)
    (hshort : ∀ i ∈ c.program.instructionAt? index, ∀ token ∈ i.operands,
      (Literal.digitRun token).length ≤ Literal.maxDigits) (e : Failure) :
    (c.step index).result ≠ .error e := by
  intro h
  obtain ⟨hlimit, -⟩ | ⟨digits, ⟨i, k, hi, r, token, -, htoken, ⟨hread, -⟩, -⟩, -⟩ :=
    (step_eq_error_iff hin).mp h
  · omega
  · have hmem : token ∈ i.operands := List.mem_of_getElem? htoken
    obtain ⟨line, -, -, hd⟩ := Program.instructionAt?_eq_some_iff.mp hi
    have hword := Instruction.isWord_of_decode hd token hmem
    have hfits := hshort i hi token hmem
    obtain ⟨hlong, -⟩ | ⟨-, ⟨-, hread'⟩ | ⟨-, hread'⟩⟩ := Literal.read_cases hword
    · omega
    · simp [hread'] at hread
    · simp [hread'] at hread

namespace Scheduler

variable {s : Scheduler}

theorem tick_forever (hrun : s.isRunning = true) (h : ∀ e, s.executeNext.result ≠ .error e) :
    (s.tick (.real forever)).result = .ok true := by
  obtain ⟨hidle, _⟩ | ⟨_, hnone, _⟩ | ⟨_, seconds, hsome, hcases⟩ := s.tick_cases (.real forever)
  · simp [hrun] at hidle
  · cases hnone
  obtain rfl : forever = seconds := Option.some.inj hsome
  obtain ⟨hearly, _⟩ | ⟨_, ht⟩ := hcases
  · exact absurd hearly (not_add_forever_lt s.timer s.interval)
  · rw [ht, (restartTimer_keeps _).1, executeNext_addTime]
    cases hresult : s.executeNext.result with
    | error e => exact absurd hresult (h e)
    | ok _ => rfl

theorem tick_ok {elapsed : Number} (h : ∀ e, s.executeNext.result ≠ .error e)
    (htime : elapsed.toFloat?.isSome = true) : ∃ used, (s.tick elapsed).result = .ok used := by
  obtain ⟨_, ht⟩ | ⟨_, hnone, _⟩ | ⟨_, seconds, _, ⟨_, ht⟩ | ⟨_, ht⟩⟩ := s.tick_cases elapsed
  · exact ⟨false, by rw [ht]⟩
  · simp [hnone] at htime
  · exact ⟨false, by rw [ht]⟩
  · rw [ht, (restartTimer_keeps _).1, executeNext_addTime]
    cases hresult : s.executeNext.result with
    | error e => exact absurd hresult (h e)
    | ok _ => exact ⟨true, rfl⟩

theorem executeNext_ok_of_shortOperands (hw : s.Writable) (hshort : s.program.ShortOperands)
    (hsize : s.program.size ≤ Hardware.indexLimit) (e : Failure) :
    s.executeNext.result ≠ .error e := by
  intro h
  obtain ⟨hin, hstep⟩ := (executeNext_eq_error_iff hw.not_lost).mp h
  obtain ⟨hlow, hhigh⟩ : 0 ≤ s.pc ∧ s.pc < s.program.size := of_decide_eq_true hin
  obtain ⟨n, hn⟩ := Int.eq_ofNat_of_zero_le hlow
  refine Cpu.step_ok_of_short hin (by omega) ?_ e hstep
  intro i hi
  exact hshort n (by omega) i (hn ▸ hi)

end Scheduler

namespace Session

variable {s t : Session} {log : LogBuffer} {l : Loop} {times : List Number} {k : Nat}

theorem exists_tickAll_of_endsIn (hf : s.Follows log l) (hw : s.scheduler.Writable)
    (hends : l.EndsIn k) :
    ∃ times t used, s.tickAll times = .ok (t, used) ∧ used.count true = k := by
  induction hends generalizing s with
  | halted | fails => exact ⟨[], s, [], rfl, rfl⟩
  | round hrun hround hrest ih =>
    have hrunning : s.scheduler.isRunning = true := by
      simp [Scheduler.isRunning, hf.runState, hrun]
    have hfine : ∀ e, s.scheduler.executeNext.result ≠ .error e := by
      intro e he
      rw [Scheduler.executeNext_eq_error_iff hw.not_lost, hf.cpu, hf.pc,
        ← Loop.round_eq_error_iff hrun, hround] at he
      cases he
    -- The loop has a round to go, so the slot does not fail and waiting for it is enough.
    have htick : (s.tick (.real forever)).result = .ok true :=
      Scheduler.tick_forever hrunning hfine
    obtain ⟨l₁, hround₁, hf₁⟩ := follows_of_used hf htick
    obtain rfl := Except.ok.inj (hround.symm.trans hround₁)
    obtain ⟨times, t, used, hall, hcount⟩ := ih hf₁ (Scheduler.writable_tick hw _)
    refine ⟨.real forever :: times, t, true :: used, ?_, ?_⟩
    · rw [tickAll, htick]
      simp only [hall, bind, Except.bind]
      rfl
    · rw [List.count_cons_self, hcount]

theorem exists_tickAll_of_kept {P : Scheduler → Prop}
    (hfine : ∀ s, P s → ∀ e, s.executeNext.result ≠ .error e)
    (hkeep : ∀ s elapsed, P s → P (s.tick elapsed).state) (h : P s.scheduler)
    (htimes : ∀ elapsed ∈ times, elapsed.toFloat?.isSome = true) :
    ∃ t used, s.tickAll times = .ok (t, used) := by
  induction times generalizing s with
  | nil => exact ⟨s, [], rfl⟩
  | cons elapsed rest ih =>
    obtain ⟨htime, hrest⟩ := List.forall_mem_cons.mp htimes
    obtain ⟨first, hfirst⟩ : ∃ used, (s.tick elapsed).result = .ok used :=
      Scheduler.tick_ok (hfine s.scheduler h) htime
    obtain ⟨t, later, hall⟩ :=
      ih (s := (s.tick elapsed).session) (hkeep s.scheduler elapsed h) hrest
    refine ⟨t, first :: later, ?_⟩
    rw [tickAll, hfirst]
    simp only [hall, bind, Except.bind]
    rfl

theorem exists_tickAll_of_shortOperands (hw : s.scheduler.Writable)
    (hshort : s.scheduler.program.ShortOperands)
    (hsize : s.scheduler.program.size ≤ Hardware.indexLimit)
    (htimes : ∀ elapsed ∈ times, elapsed.toFloat?.isSome = true) :
    ∃ t used, s.tickAll times = .ok (t, used) := by
  refine exists_tickAll_of_kept
    (P := fun s => s.Writable ∧ s.program.ShortOperands ∧ s.program.size ≤ Hardware.indexLimit)
    ?_ ?_ ⟨hw, hshort, hsize⟩ htimes
  · rintro s ⟨hw, hshort, hsize⟩
    exact Scheduler.executeNext_ok_of_shortOperands hw hshort hsize
  · rintro s elapsed ⟨hw, hfine⟩
    rw [s.program_of_tick elapsed]
    exact ⟨Scheduler.writable_tick hw elapsed, hfine⟩

end Session

/-- A forward program, started on an empty stack, runs for a fixed number of slots, `3 ^ n` at most,
whatever the ticks are: then it has halted, or its next slot fails. All the while the frames rise
from the outermost call to the innermost one, so that there are no more of them than lines. If no
operand begins with too many digits, no tick fails and the run halts. -/
theorem forward_run_halts (s : Session) (text : String) (hsource : s.source.read = .ok text)
    (hstart : s.start.result = .ok ()) (hempty : s.scheduler.cpu.frames = [])
    (hforward : (Program.parse text).Forward) :
    let p := Program.parse text
    let run := s.start.session.tickAll
    ∃ slots ≤ 3 ^ p.size,
      (∀ times t used, run times = .ok (t, used) →
        t.scheduler.machine.stack.outermostFirst.Pairwise (· < ·) ∧
        t.scheduler.machine.stack.depth ≤ p.size ∧
        used.count true ≤ slots ∧ (used.count true = slots ↔ t.IsOver)) ∧
      (∃ times t used, run times = .ok (t, used) ∧ used.count true = slots) ∧
      (p.ShortOperands → p.size ≤ Hardware.indexLimit →
        (∀ times, (∀ elapsed ∈ times, elapsed.toFloat?.isSome = true) →
          ∃ t used, run times = .ok (t, used)) ∧
        ∀ times t used, run times = .ok (t, used) →
          (used.count true = slots ↔ t.runState = .halted)) := by
  intro p run
  obtain ⟨text', htext', hbegin⟩ := Session.follows_of_start hstart
  obtain rfl : text = text' := Except.ok.inj (hsource.symm.trans htext')
  -- The number of slots is that of the rounds which the plain loop takes to its end.
  obtain ⟨hascends, hbudget⟩ := Cpu.ascends_of_empty (c := s.scheduler.cpu.load p) hempty
  obtain ⟨slots, hslots, hends⟩ :=
    Loop.exists_endsIn (l := .begin (s.scheduler.cpu.load p)) hforward hascends
  have hw : s.start.session.scheduler.Writable := by
    rw [Scheduler.Writable, hbegin.cpu, hbegin.pc]
    exact Cpu.writable_of_empty (Program.labelsInside_parse text) hempty
  refine ⟨slots, hbudget ▸ hslots, ?_, Session.exists_tickAll_of_endsIn hbegin hw hends, ?_⟩
  · intro times t used h
    obtain ⟨hprogram, hrising⟩ := Session.ascends_of_tickAll hbegin hforward hascends h
    have hdepth := hrising.depth_le
    rw [← Scheduler.program, hprogram] at hdepth
    exact ⟨hrising.outermostFirst_rising, hdepth, Session.isOver_of_tickAll hbegin hw hends h⟩
  · intro hshort hsize
    have hstarted : s.start.session.scheduler.program = p := congrArg Cpu.program hbegin.cpu
    refine ⟨?_, ?_⟩
    · intro times htimes
      exact Session.exists_tickAll_of_shortOperands hw (hstarted ▸ hshort) (hstarted ▸ hsize) htimes
    · intro times t used h
      rw [(Session.isOver_of_tickAll hbegin hw hends h).2, Session.IsOver, or_iff_left]
      rintro ⟨e, he⟩
      have hprogram : t.scheduler.program = p :=
        (Session.ascends_of_tickAll hbegin hforward hascends h).1
      exact Scheduler.executeNext_ok_of_shortOperands (Session.writable_of_tickAll hw h)
        (hprogram ▸ hshort) (hprogram ▸ hsize) e he

def Session.calledTwice : Session :=
  fresh "JMP 10 1\nJMP 10 3\nJMP 00 nowhere\nJMP 01" (.int 2)

def Session.onLongWord : Session := fresh (loadLine longWord) (.int 2)

theorem Program.forward_loadLine {w : List Char} (hne : w ≠ [])
    (h : ∀ c ∈ w, Text.isBlank c = false) : (Program.parse (loadLine w)).Forward := by
  intro index hlt i hi hop
  rw [size, parse, lines_loadLine h] at hlt
  obtain rfl : index = 0 := Nat.lt_one_iff.mp hlt
  cases (instructionAt?_loadLine hne h).symm.trans hi
  simp at hop

/-- With the long word the first slot fails, and the run neither goes on nor halts. -/
theorem forward_run_halts_calledTwice_onLongWord :
    (∃ slots ≤ 3 ^ 4, ∃ times t used,
      Session.calledTwice.start.session.tickAll times = .ok (t, used) ∧
      used.count true = slots ∧ t.runState = .halted ∧ t.scheduler.machine.stack.depth ≤ 4) ∧
    ¬ Literal.IsNumeral (.ofList longWord) ∧
    ∀ times t used, Session.onLongWord.start.session.tickAll times = .ok (t, used) →
      used.count true = 0 ∧ t.runState = .running := by
  refine ⟨?_, not_isNumeral_longWord, ?_⟩
  · obtain ⟨slots, hslots, hrows, ⟨times, t, used, h, hcount⟩, hhalts⟩ :=
      forward_run_halts Session.calledTwice "JMP 10 1\nJMP 10 3\nJMP 00 nowhere\nJMP 01" rfl
        (by decide +kernel) rfl (by decide +kernel)
    obtain ⟨-, hhalted⟩ := hhalts (by decide +kernel) (by decide +kernel)
    exact ⟨slots, hslots, times, t, used, h, hcount, (hhalted times t used h).mp hcount,
      (hrows times t used h).2.1⟩
  · have hsource : Session.onLongWord.source.read = .ok (loadLine longWord) := rfl
    have hstart : Session.onLongWord.start.result = .ok () :=
      (Session.start_of_hosted (Session.hosted_fresh (loadLine longWord) (.int 2))).1
    obtain ⟨text, htext, hbegin⟩ := Session.follows_of_start hstart
    obtain rfl := Except.ok.inj (hsource.symm.trans htext)
    obtain ⟨slots, -, hrows, -⟩ := forward_run_halts Session.onLongWord _ hsource hstart rfl
      (Program.forward_loadLine longWord_ne_nil no_blank_longWord)
    have hzero : 0 = slots := by
      obtain ⟨-, -, -, hfirst⟩ := hrows [] _ [] rfl
      have hfails : let u := Session.onLongWord.start.session.scheduler
          u.cpu.inProgram u.pc = true ∧ (u.cpu.step u.pc).result =
            .error (.trap (.oversizedLiteral (Literal.maxDigits + 1))) := by
        intro u
        rw [show u.cpu = _ from hbegin.cpu, show u.pc = _ from hbegin.pc]
        exact step_ones_append longWord_tail (Nat.lt_succ_self _) rfl (by decide)
      have hlost := Scheduler.not_lost_of_inProgram hfails.1
      exact hfirst.mpr (.inr ⟨_, (Scheduler.executeNext_eq_error_iff hlost).mpr hfails⟩)
    intro times t used h
    have hcount : used.count true = 0 := by
      have hle := (hrows times t used h).2.2.1
      omega
    obtain ⟨l, hrounds, hf⟩ := Session.follows_of_tickAll hbegin h
    rw [hcount, Loop.rounds] at hrounds
    obtain rfl := Except.ok.inj hrounds
    exact ⟨hcount, hf.runState⟩

end TickMachine
