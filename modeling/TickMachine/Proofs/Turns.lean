import Mathlib.Data.List.Forall2
import TickMachine.Proofs.Slot

namespace TickMachine

/-- The turns of a row of operations, each on the session that the one before it left. -/
def Session.turns (s : Session) : List Operation → List (Turn Answer)
  | [] => []
  | op :: rest => s.perform op :: (s.perform op).session.turns rest

/-- The operations of the scheduler itself. The others change what is around it. -/
def Operation.ofScheduler : Operation → Bool
  | .start | .stop | .reset | .halt | .refresh | .executeNext | .tick _ => true
  | _ => false

namespace Signal

/-- Whether a display takes notice of a signal; records go to the journal only. -/
def isVisible : Signal → Bool
  | .record _ => false
  | .event _ | .registers _ | .memory _ => true

def visible (signals : List Signal) : List Signal := signals.filter isVisible

@[simp]
theorem visible_append (s t : List Signal) : visible (s ++ t) = visible s ++ visible t :=
  List.filter_append ..

end Signal

theorem Display.acceptAll_visible (d : Display) (signals : List Signal) :
    d.acceptAll (Signal.visible signals) = d.acceptAll signals := by
  induction signals generalizing d with
  | nil => rfl
  | cons s rest ih =>
    cases s with
    | record r => exact ih d
    | event message => exact ih _
    | registers values => exact ih _
    | memory values => exact ih _

theorem Display.accept_congr {d e : Display} (h : d = e) (signal : Signal) :
    d.accept signal = e.accept signal := by rw [h]

/-- Two replies with the same result and the same visible signals, in states that are related. -/
structure Reply.Alike {σ τ ε α : Type} (R : σ → τ → Prop) (r : Reply σ ε α) (r' : Reply τ ε α) :
    Prop where
  state : R r.state r'.state
  signals : Signal.visible r.signals = Signal.visible r'.signals
  result : r.result = r'.result

namespace Reply.Alike

variable {σ τ ε α : Type} {R : σ → τ → Prop}

theorem behind {r : Reply σ ε α} {r' : Reply τ ε α} (h : Alike R r r') {early early' : List Signal}
    (hearly : Signal.visible early = Signal.visible early') :
    Alike R (r.behind early) (r'.behind early') := by
  refine ⟨h.state, ?_, h.result⟩
  simp only [Reply.behind, Signal.visible_append, hearly, h.signals]

theorem andThen {r : Reply σ ε Unit} {r' : Reply τ ε Unit} (h : Alike R r r')
    {next : σ → Reply σ ε α} {next' : τ → Reply τ ε α}
    (hnext : ∀ s t, R s t → Alike R (next s) (next' t)) :
    Alike R (r.andThen next) (r'.andThen next') := by
  obtain ⟨s, signals, result⟩ := r
  obtain ⟨t, signals', result'⟩ := r'
  obtain ⟨hs, hsignals, rfl⟩ := h
  cases result with
  | error e => exact ⟨hs, hsignals, rfl⟩
  | ok _ => exact (hnext s t hs).behind hsignals

end Reply.Alike

namespace Cpu

variable {R : Cpu → Cpu → Prop} {c d : Cpu} {index : Int}

theorem conclude_alike {r r' : Reply Cpu Trap (Option Int)} (h : Reply.Alike R r r') (index : Int)
    (text : String) : Reply.Alike R (conclude index text r) (conclude index text r') := by
  obtain ⟨hstate, hsignals, hresult⟩ := h
  refine ⟨hstate, ?_, congrArg (next index) hresult⟩
  have hdump : Signal.visible [r.state.dump] = Signal.visible [r'.state.dump] := rfl
  have hfront : Signal.visible (decoding text index :: r.signals) =
      Signal.visible (decoding text index :: r'.signals) :=
    congrArg (List.cons (decoding text index)) hsignals
  simp only [conclude, Signal.visible_append, hfront, hdump, hresult]

/-- A step looks at its line through the trimmed text and at everything else through what executing
that text does. -/
theorem step_alike
    (hline : (∃ e, c.program.lineAt index = .error e ∧ d.program.lineAt index = .error e) ∨
      ∃ a b, c.program.lineAt index = .ok a ∧ d.program.lineAt index = .ok b ∧
        Text.trim a = Text.trim b)
    (hmoved : R (c.moveTo index) (d.moveTo index))
    (hexecute : ∀ text,
      Reply.Alike R ((c.moveTo index).execute text) ((d.moveTo index).execute text)) :
    Reply.Alike R (c.step index) (d.step index) := by
  obtain ⟨e, hc, hd⟩ | ⟨a, b, hc, hd, htrim⟩ := hline
  · rw [step_of_fetch_error hc, step_of_fetch_error hd]
    exact ⟨hmoved, rfl, rfl⟩
  · simp only [step, hc, hd, htrim, visit]
    split
    · exact ⟨hmoved, rfl, rfl⟩
    · split
      · exact ⟨hmoved, rfl, rfl⟩
      · exact conclude_alike (hexecute _) index _

end Cpu

/-- Relations between processors, sources and displays that hide nothing which a session would show,
and that outlast whatever a session does to them. -/
structure Bisimulation where
  cpu : Cpu → Cpu → Prop
  source : Source → Source → Prop
  display : Display → Display → Prop
  size : ∀ {c d}, cpu c d → c.program.size = d.program.size
  snapshot : ∀ {c d}, cpu c d → Scheduler.snapshot c.machine = Scheduler.snapshot d.machine
  step : ∀ {c d}, cpu c d → ∀ index, Reply.Alike cpu (c.step index) (d.step index)
  reset : ∀ {c d}, cpu c d →
    cpu { c with machine := c.machine.reset } { d with machine := d.machine.reset }
  /-- Neither source can be read, for one reason, or the texts bring related processors to related
  ones and are announced in the same way. -/
  read : ∀ {a b}, source a b → (∃ e, a.read = .error e ∧ b.read = .error e) ∨
    ∃ x y, a.read = .ok x ∧ b.read = .ok y ∧
      Signal.visible (Scheduler.loading x) = Signal.visible (Scheduler.loading y) ∧
      ∀ {c d}, cpu c d → cpu (c.load (.parse x)) (d.load (.parse y))
  accept : ∀ {d e}, display d e → ∀ signal, display (d.accept signal) (e.accept signal)

namespace Bisimulation

variable (B : Bisimulation)

structure Schedulers (s t : Scheduler) : Prop where
  cpu : B.cpu s.cpu t.cpu
  runState : s.runState = t.runState
  pc : s.pc = t.pc
  interval : s.interval = t.interval
  timer : s.timer = t.timer

structure Sessions (s t : Session) : Prop where
  scheduler : B.Schedulers s.scheduler t.scheduler
  source : B.source s.source t.source
  rate : s.rate = t.rate
  display : B.display s.display t.display

/-- Two turns with the same result that leave related sessions. -/
structure Turns (t u : Turn Answer) : Prop where
  result : t.result = u.result
  session : B.Sessions t.session u.session

section Schedulers

variable {B} {s t : Scheduler}

theorem stop_alike (h : B.Schedulers s t) : Reply.Alike B.Schedulers s.stop t.stop := by
  unfold Scheduler.stop Scheduler.isRunning
  rw [h.runState]
  split
  · exact ⟨⟨h.cpu, rfl, h.pc, h.interval, h.timer⟩, rfl, rfl⟩
  · exact ⟨h, rfl, rfl⟩

theorem halt_alike (h : B.Schedulers s t) : Reply.Alike B.Schedulers s.halt t.halt := by
  unfold Scheduler.halt
  rw [h.pc]
  split
  · exact ⟨⟨h.cpu, rfl, rfl, h.interval, h.timer⟩, rfl, rfl⟩
  · exact ⟨h, rfl, rfl⟩

theorem refresh_alike (h : B.Schedulers s t) : Reply.Alike B.Schedulers s.refresh t.refresh :=
  ⟨h, congrArg Signal.visible (B.snapshot h.cpu), rfl⟩

theorem reset_alike (h : B.Schedulers s t) : Reply.Alike B.Schedulers s.reset t.reset := by
  have hcpu : B.cpu s.cleared.cpu t.cleared.cpu := B.reset h.cpu
  exact ⟨⟨hcpu, rfl, rfl, h.interval, rfl⟩, congrArg Signal.visible (B.snapshot hcpu), rfl⟩

theorem start_alike (h : B.Schedulers s t) {a b : Source} (hsource : B.source a b)
    (rate : RateControl) : Reply.Alike B.Schedulers (s.start a rate) (t.start b rate) := by
  unfold Scheduler.start
  obtain ⟨e, ha, hb⟩ | ⟨x, y, ha, hb, hloading, hload⟩ := B.read hsource
  · rw [ha, hb]
    exact ⟨h, rfl, rfl⟩
  have hcpu : B.cpu (s.load x).cpu (t.load y).cpu := hload h.cpu
  rw [ha, hb]
  cases rate.interval with
  | error e =>
    refine ⟨⟨hcpu, h.runState, h.pc, h.interval, h.timer⟩, ?_, rfl⟩
    exact congrArg (List.cons Scheduler.started) hloading
  | ok seconds =>
    refine ⟨⟨hcpu, rfl, rfl, rfl, h.timer⟩, ?_, rfl⟩
    have hshown : Scheduler.snapshot s.machine = Scheduler.snapshot t.machine := B.snapshot h.cpu
    have hfront : Signal.visible (Scheduler.started :: Scheduler.loading x) =
        Signal.visible (Scheduler.started :: Scheduler.loading y) :=
      congrArg (List.cons Scheduler.started) hloading
    simp only [Scheduler.startOn, Signal.visible_append, hfront, hshown]

theorem executeNext_alike (h : B.Schedulers s t) :
    Reply.Alike B.Schedulers s.executeNext t.executeNext := by
  have hin : s.cpu.inProgram s.pc = t.cpu.inProgram t.pc := by
    rw [Cpu.inProgram, Cpu.inProgram, B.size h.cpu, h.pc]
  unfold Scheduler.executeNext
  rw [hin]
  split
  · have hstep := B.step h.cpu s.pc
    rw [← h.pc]
    generalize s.cpu.step s.pc = r at hstep ⊢
    generalize t.cpu.step s.pc = r' at hstep ⊢
    obtain ⟨cpu, signals, result⟩ := r
    obtain ⟨cpu', signals', result'⟩ := r'
    obtain ⟨hcpu, hsignals, rfl⟩ := hstep
    -- The one result says on both sides whether to fail, to halt or to go on.
    match result with
    | .error e => exact ⟨⟨hcpu, h.runState, h.pc, h.interval, h.timer⟩, hsignals, rfl⟩
    | .ok none =>
      have hhalt := halt_alike (B := B) (s := { s with cpu }) (t := { t with cpu := cpu' })
        ⟨hcpu, h.runState, h.pc, h.interval, h.timer⟩
      exact (hhalt.andThen fun _ _ => refresh_alike).behind hsignals
    | .ok (some next) =>
      have hrefresh := refresh_alike (B := B) (s := { s with cpu, pc := next })
        (t := { t with cpu := cpu', pc := next }) ⟨hcpu, h.runState, rfl, h.interval, h.timer⟩
      exact hrefresh.behind hsignals
  · exact (halt_alike h).behind rfl

theorem restartTimer_alike {r r' : Reply Scheduler Failure Unit}
    (h : Reply.Alike B.Schedulers r r') :
    Reply.Alike B.Schedulers (Scheduler.restartTimer r) (Scheduler.restartTimer r') := by
  obtain ⟨s, signals, result⟩ := r
  obtain ⟨t, signals', result'⟩ := r'
  obtain ⟨hs, hsignals, rfl⟩ := h
  cases result with
  | error e => exact ⟨hs, hsignals, rfl⟩
  | ok _ => exact ⟨⟨hs.cpu, hs.runState, hs.pc, hs.interval, rfl⟩, hsignals, rfl⟩

theorem tick_alike (h : B.Schedulers s t) (elapsed : Number) :
    Reply.Alike B.Schedulers (s.tick elapsed) (t.tick elapsed) := by
  unfold Scheduler.tick Scheduler.isRunning
  rw [h.runState]
  split
  · cases elapsed.toFloat? with
    | none => exact ⟨h, rfl, rfl⟩
    | some seconds =>
      have hlater : B.Schedulers (s.addTime seconds) (t.addTime seconds) :=
        ⟨h.cpu, h.runState, h.pc, h.interval, congrArg (· + seconds) h.timer⟩
      simp only [Scheduler.whenDue, hlater.timer, hlater.interval]
      split
      · exact ⟨hlater, rfl, rfl⟩
      · exact restartTimer_alike (executeNext_alike hlater)
  · exact ⟨h, rfl, rfl⟩

end Schedulers

variable {B} {s t : Session}

theorem acceptAll_related {d e : Display} (h : B.display d e) (signals : List Signal) :
    B.display (d.acceptAll signals) (e.acceptAll signals) := by
  induction signals generalizing d e with
  | nil => exact h
  | cons signal rest ih => exact ih (B.accept h signal)

theorem display_absorb {α : Type} {r r' : Reply Scheduler Failure α}
    (h : B.display s.display t.display)
    (hr : Signal.visible r.signals = Signal.visible r'.signals) :
    B.display (s.absorb r).session.display (t.absorb r').session.display := by
  have hdisplay := acceptAll_related h (Signal.visible r.signals)
  rw [Display.acceptAll_visible, hr, Display.acceptAll_visible] at hdisplay
  exact hdisplay

theorem absorb_related {α : Type} {r r' : Reply Scheduler Failure α} (h : B.Sessions s t)
    (hr : Reply.Alike B.Schedulers r r') (f : α → Answer) :
    B.Turns (Session.answered f (s.absorb r)) (Session.answered f (t.absorb r')) :=
  ⟨congrArg (Except.map f) hr.result,
    ⟨hr.state, h.source, h.rate, display_absorb h.display hr.signals⟩⟩

theorem perform_related (h : B.Sessions s t) {op : Operation} (hop : op.ofScheduler = true) :
    B.Turns (s.perform op) (t.perform op) := by
  match op, hop with
  | .start, _ =>
    have hstart := start_alike h.scheduler h.source s.rate
    rw [Session.perform, Session.perform, Session.start, Session.start, ← h.rate]
    exact absorb_related h hstart _
  | .stop, _ => exact absorb_related h (stop_alike h.scheduler) _
  | .reset, _ => exact absorb_related h (reset_alike h.scheduler) _
  | .halt, _ => exact absorb_related h (halt_alike h.scheduler) _
  | .refresh, _ => exact absorb_related h (refresh_alike h.scheduler) _
  | .executeNext, _ => exact absorb_related h (executeNext_alike h.scheduler) _
  | .tick elapsed, _ => exact absorb_related h (tick_alike h.scheduler elapsed) _

theorem turns_related {ops : List Operation} (h : B.Sessions s t)
    (hops : ∀ op ∈ ops, op.ofScheduler = true) :
    List.Forall₂ B.Turns (s.turns ops) (t.turns ops) := by
  induction ops generalizing s t with
  | nil => exact .nil
  | cons op rest ih =>
    have hfirst : B.Turns (s.perform op) (t.perform op) :=
      perform_related h (hops op List.mem_cons_self)
    refine .cons hfirst (ih hfirst.session ?_)
    intro op' hop'
    exact hops op' (List.mem_cons_of_mem op hop')

end Bisimulation
end TickMachine
