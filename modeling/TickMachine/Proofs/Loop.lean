import TickMachine.Proofs.Rate
import TickMachine.Proofs.Slot

namespace TickMachine

/-- A run without a clock: one step after the other until the program ends. -/
structure Loop where
  cpu : Cpu
  index : Int
  halted : Bool
  /-- What the steps had to say, oldest first. -/
  messages : List String

namespace Loop

def begin (cpu : Cpu) : Loop := ⟨cpu, 0, false, []⟩

/-- Finding the index outside the program takes a round of its own. -/
def round (l : Loop) : Except Failure Loop :=
  if l.halted then .ok l
  else if l.cpu.inProgram l.index then
    let r := l.cpu.step l.index
    let messages := l.messages ++ r.signals.filterMap Signal.event?
    match r.result with
    | .error e => .error e
    | .ok none => .ok { l with cpu := r.state, halted := true, messages }
    | .ok (some next) => .ok { l with cpu := r.state, index := next, messages }
  else .ok { l with halted := true, messages := l.messages ++ ["Program finished."] }

def rounds (l : Loop) : Nat → Except Failure Loop
  | 0 => .ok l
  | n + 1 => do (← l.round).rounds n

end Loop

theorem Display.acceptAll_events (d : Display) (signals : List Signal) :
    (d.acceptAll signals).events =
      (signals.filterMap Signal.event?).foldl LogBuffer.append d.events := by
  induction signals generalizing d with
  | nil => rfl
  | cons s rest ih =>
    change ((d.accept s).acceptAll rest).events = _
    rw [ih]
    cases s <;> rfl

namespace Session

/-- The session after a row of ticks, with what each of them answered; the first tick that fails
ends the row. -/
def tickAll (s : Session) : List Number → Except Failure (Session × List Bool)
  | [] => .ok (s, [])
  | elapsed :: rest => do
    let used ← (s.tick elapsed).result
    let (last, later) ← (s.tick elapsed).session.tickAll rest
    return (last, used :: later)

/-- A session stands where the loop stands and has logged, after `log`, what the loop has said. -/
structure Follows (s : Session) (log : LogBuffer) (l : Loop) : Prop where
  cpu : s.scheduler.cpu = l.cpu
  pc : s.scheduler.pc = l.index
  runState : s.scheduler.runState = if l.halted then .halted else .running
  events : s.display.events = l.messages.foldl LogBuffer.append log

variable {s : Session} {log : LogBuffer} {l : Loop} {elapsed : Number}

theorem tick_of_unused (h : (s.tick elapsed).result = .ok false) :
    (s.tick elapsed).session =
      { s with scheduler :=
        { s.scheduler with timer := (s.tick elapsed).session.scheduler.timer } } := by
  unfold tick absorb at *
  obtain ⟨_, ht⟩ | ⟨_, _, ht⟩ | ⟨_, seconds, _, ⟨_, ht⟩ | ⟨_, ht⟩⟩ := s.scheduler.tick_cases elapsed
  · rw [ht]
    rfl
  · rw [ht] at h
    cases h
  · rw [ht]
    rfl
  · rw [ht] at h
    generalize (s.scheduler.addTime seconds).executeNext = r at h
    match r, h with
    | ⟨_, _, .error e⟩, h => cases h
    | ⟨_, _, .ok _⟩, h => cases h

theorem events_after (hf : s.Follows log l) (signals : List Signal) {quiet : List Signal}
    (hquiet : quiet.filterMap Signal.event? = []) :
    (s.display.acceptAll (signals ++ quiet)).events =
      (l.messages ++ signals.filterMap Signal.event?).foldl LogBuffer.append log := by
  rw [Display.acceptAll_events, List.filterMap_append, hquiet, List.append_nil, hf.events,
    List.foldl_append]

theorem Follows.halted_eq_false (hf : s.Follows log l) (hrun : s.scheduler.runState = .running) :
    l.halted = false := by
  rw [hf.runState] at hrun
  cases hh : l.halted with
  | false => rfl
  | true => simp [hh] at hrun

/-- A tick that answers true is one round. -/
theorem follows_of_used (hf : s.Follows log l) (h : (s.tick elapsed).result = .ok true) :
    ∃ l', l.round = .ok l' ∧ (s.tick elapsed).session.Follows log l' := by
  unfold tick absorb at *
  obtain ⟨_, ht⟩ | ⟨_, _, ht⟩ | ⟨hrun, seconds, _, ⟨_, ht⟩ | ⟨_, ht⟩⟩ :=
    s.scheduler.tick_cases elapsed
  · rw [ht] at h
    cases h
  · rw [ht] at h
    cases h
  · rw [ht] at h
    cases h
  -- What is left is a slot in use: the run goes on, so the loop has not halted either.
  have hrunning : s.scheduler.runState = .running := by simpa [Scheduler.isRunning] using hrun
  have hgo := hf.halted_eq_false hrunning
  have hcpu : (s.scheduler.addTime seconds).cpu = l.cpu := hf.cpu
  have hpc : (s.scheduler.addTime seconds).pc = l.index := hf.pc
  rw [ht] at h ⊢
  unfold Loop.round
  obtain ⟨hin, _, hr⟩ | ⟨_, hr⟩ |
      ⟨hin, signals, ⟨e, _, hr⟩ | ⟨hstep, hr⟩ | ⟨cpu, next, hstep, hr⟩⟩ :=
    (s.scheduler.addTime seconds).executeNext_cases
  · rw [hcpu, hpc] at hin
    refine ⟨_, by simp only [hgo, hin]; rfl, ?_⟩
    rw [hr]
    exact ⟨hf.cpu, hf.pc, rfl, events_after hf [.event "Program finished."] rfl⟩
  · rw [hr] at h
    cases h
  · rw [hr] at h
    cases h
  · rw [hcpu, hpc] at hin hstep
    refine ⟨_, by simp only [hgo, hin, hstep]; rfl, ?_⟩
    rw [hr]
    exact ⟨by rw [← hcpu, ← hpc]; rfl, hf.pc, rfl, events_after hf signals rfl⟩
  · rw [hcpu, hpc] at hin hstep
    refine ⟨_, by simp only [hgo, hin, hstep]; rfl, ?_⟩
    rw [hr]
    exact ⟨rfl, rfl, hrunning, events_after hf signals rfl⟩

theorem follows_of_tickAll {times : List Number} {t : Session} {used : List Bool}
    (hf : s.Follows log l) (h : s.tickAll times = .ok (t, used)) :
    ∃ l', l.rounds (used.count true) = .ok l' ∧ t.Follows log l' := by
  induction times generalizing s l used with
  | nil =>
    cases h
    exact ⟨l, rfl, hf⟩
  | cons elapsed rest ih =>
    obtain ⟨first, hfirst, h⟩ := Except.bind_eq_ok h
    obtain ⟨⟨last, later⟩, hrest, h⟩ := Except.bind_eq_ok h
    cases h
    cases first with
    | false =>
      have hstill : (s.tick elapsed).session.Follows log l := by
        rw [tick_of_unused hfirst]
        exact ⟨hf.cpu, hf.pc, hf.runState, hf.events⟩
      simpa using ih hstill hrest
    | true =>
      obtain ⟨l₁, hround, hf₁⟩ := follows_of_used hf hfirst
      obtain ⟨l', hrounds, hf'⟩ := ih hf₁ hrest
      refine ⟨l', ?_, hf'⟩
      rw [List.count_cons_self, Loop.rounds, hround]
      exact hrounds

theorem follows_of_start (h : s.start.result = .ok ()) :
    ∃ text, s.source.read = .ok text ∧
      s.start.session.Follows s.start.session.display.events
        (.begin (s.scheduler.cpu.load (.parse text))) := by
  unfold start absorb Scheduler.start at *
  cases htext : s.source.read with
  | error e => simp [htext] at h
  | ok text =>
    cases hinterval : s.rate.interval with
    | error e => simp [htext, hinterval, Scheduler.startOn] at h
    | ok interval => exact ⟨text, rfl, ⟨rfl, rfl, rfl, rfl⟩⟩

end Session

/-- After a start that succeeds, ticks that use `n` slots leave the processor, the pc, the run state
and the log as `n` rounds of the plain loop do. So two rows of ticks that use as many slots lead to
the same place, and a tick that uses none changes the timer only. -/
theorem ticks_refine_loop (s : Session) (hstart : s.start.result = .ok ()) :
    ∃ text, s.source.read = .ok text ∧
    (∀ (times : List Number) (t : Session) (used : List Bool),
      s.start.session.tickAll times = .ok (t, used) →
      ∃ l, (Loop.begin (s.scheduler.cpu.load (.parse text))).rounds (used.count true) = .ok l ∧
        t.Follows s.start.session.display.events l) ∧
    (∀ (times times' : List Number) (t t' : Session) (used used' : List Bool),
      s.start.session.tickAll times = .ok (t, used) →
      s.start.session.tickAll times' = .ok (t', used') →
      used.count true = used'.count true →
      ∃ l, t.Follows s.start.session.display.events l ∧
        t'.Follows s.start.session.display.events l) ∧
    ∀ (t : Session) (elapsed : Number), (t.tick elapsed).result = .ok false →
      (t.tick elapsed).session = { t with scheduler :=
        { t.scheduler with timer := (t.tick elapsed).session.scheduler.timer } } := by
  obtain ⟨text, htext, hbegin⟩ := Session.follows_of_start hstart
  refine ⟨text, htext, ?_, ?_, ?_⟩
  · intro times t used h
    exact Session.follows_of_tickAll hbegin h
  · intro times times' t t' used used' h h' hcount
    obtain ⟨l, hl, hf⟩ := Session.follows_of_tickAll hbegin h
    obtain ⟨l', hl', hf'⟩ := Session.follows_of_tickAll hbegin h'
    -- Both are as many rounds of one loop, and a round has one result.
    rw [hcount, hl'] at hl
    obtain rfl := Except.ok.inj hl
    exact ⟨l', hf, hf'⟩
  · intro t elapsed h
    exact Session.tick_of_unused h

def Session.brief : Session :=
  (onDisplay (.text "IMM 0 7\nNOOP") (.fixed (.ofNumber (.int 2))) (.blank false none)).session

/-- Two slots, whether the time comes in four parts or in two; a tick before its time uses none. -/
theorem ticks_refine_loop_brief :
    (∃ t t' l, Session.brief.start.session.tickAll [.real 0.25, .real 0.25, .int 1, .real 3.0] =
        .ok (t, [false, true, true, false]) ∧
      Session.brief.start.session.tickAll [.real 0.5, .real 0.75] = .ok (t', [true, true]) ∧
      t.Follows Session.brief.start.session.display.events l ∧
      t'.Follows Session.brief.start.session.display.events l) ∧
    ∃ x, (Session.brief.start.session.tick (.real 0.25)).session =
      { Session.brief.start.session with
        scheduler := { Session.brief.start.session.scheduler with timer := x } } := by
  have hanswers : ∀ times used,
      (Session.brief.start.session.tickAll times).toOption.map (·.2) = some used →
      ∃ t, Session.brief.start.session.tickAll times = .ok (t, used) := by
    intro times used h
    match hrun : Session.brief.start.session.tickAll times, h with
    | .ok (t, _), rfl => exact ⟨t, rfl⟩
  have hsource : Session.brief.source.read = .ok "IMM 0 7\nNOOP" := rfl
  obtain ⟨seconds, hrate⟩ : ∃ seconds, Session.brief.rate.interval = .ok seconds :=
    RateControl.exists_interval_of_fixed (.int 2)
  have hstart : Session.brief.start.result = .ok () := (Session.start_of_interval hsource hrate).1
  obtain ⟨_, _, _, hsame, hunused⟩ := ticks_refine_loop Session.brief hstart
  obtain ⟨t, ht⟩ := hanswers [.real 0.25, .real 0.25, .int 1, .real 3.0] [false, true, true, false]
    (by decide +kernel)
  obtain ⟨t', ht'⟩ := hanswers [.real 0.5, .real 0.75] [true, true] (by decide +kernel)
  obtain ⟨l, hl, hl'⟩ := hsame _ _ _ _ _ _ ht ht' rfl
  have hearly : (Session.brief.start.session.tick (.real 0.25)).result = .ok false := by
    have hbool : (Session.brief.start.session.tick (.real 0.25)).result.toOption = some false := by
      decide +kernel
    match hr : (Session.brief.start.session.tick (.real 0.25)).result, hbool with
    | .ok _, rfl => rfl
  exact ⟨⟨t, t', l, ht, ht', hl, hl'⟩, _, hunused _ _ hearly⟩

end TickMachine
