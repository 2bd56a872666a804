import TickMachine.Proofs.Atomicity
import TickMachine.Proofs.Labels
import TickMachine.Proofs.Loop
import TickMachine.Proofs.Turns

namespace TickMachine

namespace LogBuffer

/-- A log holds the last of these lines, as many as it has room for. -/
structure LastOf (b : LogBuffer) (all : List String) : Prop where
  suffix : b.lines <:+ all
  size : b.size = b.capacity.elim all.length (min · all.length)

variable {b : LogBuffer} {all : List String}

theorem lastOf_empty (capacity : Option Nat) : (empty capacity).LastOf [] := by
  refine ⟨List.suffix_refl _, ?_⟩
  cases capacity with
  | none => rfl
  | some n => exact (Nat.min_zero n).symm

theorem LastOf.append (h : b.LastOf all) (line : String) :
    (b.append line).LastOf (all ++ [line]) := by
  obtain ⟨capacity, lines⟩ := b
  have hlines : lines ++ [line] <:+ all ++ [line] := by
    obtain ⟨older, rfl⟩ := h.suffix
    exact ⟨older, (List.append_assoc ..).symm⟩
  have hsize : lines.length = capacity.elim all.length (min · all.length) := h.size
  cases capacity with
  | none =>
    refine ⟨hlines, ?_⟩
    simpa [LogBuffer.size, LogBuffer.append, keep] using hsize
  | some n =>
    refine ⟨(List.drop_suffix _ _).trans hlines, ?_⟩
    have hmin : lines.length = min n all.length := hsize
    simp only [LogBuffer.size, LogBuffer.append, keep, List.length_drop, List.length_append,
      List.length_singleton, Option.elim_some]
    omega

theorem LastOf.appendAll (h : b.LastOf all) (messages : List String) :
    (messages.foldl LogBuffer.append b).LastOf (all ++ messages) := by
  induction messages generalizing b all with
  | nil => simpa using h
  | cons line rest ih => simpa using ih (h.append line)

theorem capacity_appendAll (b : LogBuffer) (messages : List String) :
    (messages.foldl append b).capacity = b.capacity := by
  induction messages generalizing b with
  | nil => rfl
  | cons line rest ih => exact ih (b.append line)

theorem LastOf.lines_eq (h : b.LastOf all) (hb : b.capacity = none) : b.lines = all := by
  have hsize := h.size
  rw [hb] at hsize
  exact h.suffix.eq_of_length hsize

end LogBuffer

namespace Signal

/-- Whether a signal is a record of the level at which displays write their events. -/
def isInfo : Signal → Bool
  | .record r => r.level = .info
  | .event _ | .registers _ | .memory _ => false

end Signal

def Record.infos (records : List Record) : List String :=
  (records.filter fun r => r.level = .info).map Record.message

theorem Record.infos_append (records others : List Record) :
    infos (records ++ others) = infos records ++ infos others := by
  simp [infos]

namespace Display

variable (d : Display)

theorem lastOf_blank (journaled : Bool) (capacity : Option Nat) (signals : List Signal) :
    ((blank journaled capacity).acceptAll signals).events.LastOf
        (signals.filterMap Signal.event?) ∧
      ((blank journaled capacity).acceptAll signals).events.capacity = capacity := by
  rw [acceptAll_events]
  exact ⟨(LogBuffer.lastOf_empty capacity).appendAll _, LogBuffer.capacity_appendAll _ _⟩

theorem acceptAll_shown_congr {d e : Display} (hregisters : d.registers = e.registers)
    (hmemory : d.memory = e.memory) (signals : List Signal) :
    (d.acceptAll signals).registers = (e.acceptAll signals).registers ∧
      (d.acceptAll signals).memory = (e.acceptAll signals).memory := by
  induction signals generalizing d e with
  | nil => exact ⟨hregisters, hmemory⟩
  | cons s rest ih =>
    cases s with
    | event message => exact ih hregisters hmemory
    | record r => exact ih hregisters hmemory
    | registers values => exact ih rfl hmemory
    | memory values => exact ih hregisters rfl

theorem journal_congr {d e : Display} (h : d.journaled = e.journaled) (signals : List Signal) :
    d.journalAll signals = e.journalAll signals := by
  have hjournal : d.journal = e.journal := by
    funext s
    cases s <;> simp only [journal, h]
  rw [journalAll, journalAll, hjournal]

theorem journalAll_append (s t : List Signal) :
    d.journalAll (s ++ t) = d.journalAll s ++ (d.acceptAll s).journalAll t := by
  rw [journal_congr (d.acceptAll_journaled s) t]
  exact List.flatMap_append

theorem infos_journalAll {signals : List Signal} (h : ∀ s ∈ signals, s.isInfo = false) :
    Record.infos (d.journalAll signals) =
      if d.journaled then signals.filterMap Signal.event? else [] := by
  induction signals with
  | nil => simp [journalAll, Record.infos]
  | cons s rest ih =>
    have hs := h s List.mem_cons_self
    have hrest := ih fun t ht => h t (List.mem_cons_of_mem s ht)
    have hcons : d.journalAll (s :: rest) = d.journal s ++ d.journalAll rest := rfl
    rw [hcons, Record.infos_append, hrest]
    cases hj : d.journaled <;> cases s with
    | event message => simp [journal, hj, Record.infos, Signal.event?]
    | record r =>
      have hlevel : ¬ r.level = .info := of_decide_eq_false hs
      simp [journal, Record.infos, Signal.event?, List.filterMap_cons, hlevel]
    | registers values => simp [journal, hj, Record.infos, Signal.event?, List.filterMap_cons]
    | memory values => simp [journal, hj, Record.infos, Signal.event?, List.filterMap_cons]

end Display

theorem Program.survey_not_info (lines : List String) :
    ∀ r ∈ (survey lines).records, r.level ≠ .info := by
  induction lines using List.reverseRecOn with
  | nil => exact List.forall_mem_nil _
  | append_singleton lines line ih =>
    rw [survey_concat, Survey.addLine]
    cases Line.label? line with
    | none => exact ih
    | some name =>
      intro r hr
      simp only [Survey.declare, List.cons_append, List.mem_cons, List.mem_append,
        Option.mem_toList, Option.map_eq_some_iff] at hr
      obtain rfl | ⟨old, _, rfl⟩ | hr := hr
      · exact Level.noConfusion
      · exact Level.noConfusion
      · exact ih r hr

namespace Scheduler

theorem snapshot_not_info {m : Machine} : ∀ t ∈ snapshot m, t.isInfo = false := by
  simp [snapshot, Signal.isInfo]

theorem loading_not_info (source : String) : ∀ t ∈ loading source, t.isInfo = false := by
  intro t ht
  simp only [loading, List.mem_append, List.mem_map, List.mem_singleton] at ht
  obtain (⟨r, hr, rfl⟩ | ⟨_, _, rfl⟩) | rfl := ht
  · exact decide_eq_false (Program.survey_not_info _ r (List.mem_reverse.mp hr))
  · rfl
  · rfl

variable (s : Scheduler)

theorem start_not_info (source : Source) (rate : RateControl) :
    ∀ t ∈ (s.start source rate).signals, t.isInfo = false := by
  unfold start
  cases source.read with
  | error e => exact List.forall_mem_singleton.mpr rfl
  | ok text =>
    have hfront : ∀ t ∈ started :: loading text, t.isInfo = false :=
      List.forall_mem_cons.mpr ⟨rfl, loading_not_info text⟩
    cases rate.interval with
    | error e => exact hfront
    | ok seconds =>
      exact List.forall_mem_append.mpr
        ⟨hfront, List.forall_mem_cons.mpr ⟨rfl, snapshot_not_info⟩⟩

theorem executeNext_not_info : ∀ t ∈ s.executeNext.signals, t.isInfo = false := by
  have hstep : ∀ t ∈ (s.cpu.step s.pc).signals, t.isInfo = false := by
    intro t ht
    obtain ⟨message, rfl⟩ | ⟨message, rfl⟩ := s.cpu.step_signals s.pc t ht
    · rfl
    · rfl
  obtain ⟨_, _, hr⟩ | ⟨_, hr⟩ |
      ⟨_, signals, ⟨e, hs, hr⟩ | ⟨hs, hr⟩ | ⟨cpu, next, hs, hr⟩⟩ :=
    s.executeNext_cases
  · rw [hr]
    exact List.forall_mem_cons.mpr ⟨rfl, List.forall_mem_singleton.mpr rfl⟩
  · rw [hr]
    exact List.forall_mem_singleton.mpr rfl
  · rw [hs] at hstep
    rw [hr]
    exact hstep
  · rw [hs] at hstep
    rw [hr]
    exact List.forall_mem_append.mpr
      ⟨hstep, List.forall_mem_cons.mpr ⟨rfl, snapshot_not_info⟩⟩
  · rw [hs] at hstep
    rw [hr]
    exact List.forall_mem_append.mpr ⟨hstep, snapshot_not_info⟩

theorem tick_not_info (elapsed : Number) :
    ∀ t ∈ (s.tick elapsed).signals, t.isInfo = false := by
  obtain ⟨_, ht⟩ | ⟨_, _, ht⟩ | ⟨_, seconds, _, ⟨_, ht⟩ | ⟨_, ht⟩⟩ := s.tick_cases elapsed
  · rw [ht]
    exact List.forall_mem_nil _
  · rw [ht]
    exact List.forall_mem_nil _
  · rw [ht]
    exact List.forall_mem_nil _
  · rw [ht, signals_restartTimer]
    exact (s.addTime seconds).executeNext_not_info

end Scheduler

namespace Session

def on (s : Session) (d : Display) : Session := { s with display := d }

/-- What an operation gives to the display and the journal. -/
def signalsOf (s : Session) : Operation → List Signal
  | .start => (s.scheduler.start s.source s.rate).signals
  | .stop => s.scheduler.stop.signals
  | .reset => s.scheduler.reset.signals
  | .halt => s.scheduler.halt.signals
  | .refresh => s.scheduler.refresh.signals
  | .executeNext => s.scheduler.executeNext.signals
  | .tick elapsed => (s.scheduler.tick elapsed).signals
  | _ => []

def signalsOfAll (s : Session) : List Operation → List Signal
  | [] => []
  | op :: rest => s.signalsOf op ++ (s.perform op).session.signalsOfAll rest

variable (s : Session) (d : Display)

theorem signalsOf_not_info (op : Operation) : ∀ t ∈ s.signalsOf op, t.isInfo = false := by
  cases op with
  | start => exact s.scheduler.start_not_info s.source s.rate
  | stop =>
    change ∀ t ∈ s.scheduler.stop.signals, t.isInfo = false
    unfold Scheduler.stop
    split
    · exact List.forall_mem_singleton.mpr rfl
    · exact List.forall_mem_nil _
  | reset => exact Scheduler.snapshot_not_info
  | halt =>
    change ∀ t ∈ s.scheduler.halt.signals, t.isInfo = false
    unfold Scheduler.halt
    split
    · exact List.forall_mem_singleton.mpr rfl
    · exact List.forall_mem_nil _
  | refresh => exact Scheduler.snapshot_not_info
  | executeNext => exact s.scheduler.executeNext_not_info
  | tick elapsed => exact s.scheduler.tick_not_info elapsed
  | setText | setFile | setRate | setRegister | setMemory | push => exact List.forall_mem_nil _

theorem signalsOfAll_not_info (ops : List Operation) :
    ∀ t ∈ s.signalsOfAll ops, t.isInfo = false := by
  induction ops generalizing s with
  | nil => exact List.forall_mem_nil _
  | cons op rest ih =>
    exact List.forall_mem_append.mpr ⟨s.signalsOf_not_info op, ih (s.perform op).session⟩

theorem poke_on (m : Except Trap Machine) :
    (s.on d).poke m = ⟨(s.poke m).session.on d, [], (s.poke m).result⟩ := by
  cases m <;> rfl

/-- An operation does the same in front of any display: it leaves the display what it gives to it,
and never looks at it. -/
theorem perform_on (op : Operation) :
    (s.on d).perform op = ⟨(s.perform op).session.on (d.acceptAll (s.signalsOf op)),
      d.journalAll (s.signalsOf op), (s.perform op).result⟩ := by
  obtain ⟨scheduler, source, rate, shown⟩ := s
  cases op with
  | start | stop | reset | halt | refresh | executeNext | tick | push => rfl
  | setText text => cases source <;> rfl
  | setFile contents => cases source <;> rfl
  | setRate value => cases rate <;> rfl
  | setRegister index value =>
    simp only [perform, answered, poke_on]
    rfl
  | setMemory index value =>
    simp only [perform, answered, poke_on]
    rfl

theorem performAll_on (ops : List Operation) :
    (s.on d).performAll ops = (s.performAll ops).on (d.acceptAll (s.signalsOfAll ops)) := by
  induction ops generalizing s d with
  | nil => rfl
  | cons op rest ih =>
    have hfirst : ((s.on d).perform op).session =
        (s.perform op).session.on (d.acceptAll (s.signalsOf op)) := by rw [perform_on]
    change ((s.on d).perform op).session.performAll rest = _
    rw [hfirst, ih, signalsOfAll, Display.acceptAll_append]
    rfl

theorem turns_on (ops : List Operation) :
    ((s.on d).turns ops).map Turn.result = (s.turns ops).map Turn.result ∧
      ((s.on d).turns ops).flatMap Turn.records = d.journalAll (s.signalsOfAll ops) := by
  induction ops generalizing s d with
  | nil => exact ⟨rfl, rfl⟩
  | cons op rest ih =>
    obtain ⟨hresults, hrecords⟩ :=
      ih (s.perform op).session (d.acceptAll (s.signalsOf op))
    simp only [turns, perform_on, List.map_cons, List.flatMap_cons, hresults, hrecords,
      signalsOfAll, Display.journalAll_append, and_self]

/-- Two sessions that agree in everything but their logs and journals. -/
structure SameButLog (s t : Session) : Prop where
  scheduler : s.scheduler = t.scheduler
  source : s.source = t.source
  rate : s.rate = t.rate
  registers : s.display.registers = t.display.registers
  memory : s.display.memory = t.display.memory

variable (ops : List Operation)

theorem sameButLog_on {d e : Display} (hregisters : d.registers = e.registers)
    (hmemory : d.memory = e.memory) :
    ((s.on d).performAll ops).SameButLog ((s.on e).performAll ops) := by
  obtain ⟨hshown, hshown'⟩ := Display.acceptAll_shown_congr hregisters hmemory (s.signalsOfAll ops)
  rw [performAll_on, performAll_on]
  exact ⟨rfl, rfl, rfl, hshown, hshown'⟩

def eventsOf : List String := (s.signalsOfAll ops).filterMap Signal.event?

theorem events_on_blank (journaled : Bool) (capacity : Option Nat) :
    let log := ((s.on (.blank journaled capacity)).performAll ops).display.events
    log.LastOf (s.eventsOf ops) ∧ log.capacity = capacity := by
  rw [performAll_on]
  exact Display.lastOf_blank journaled capacity (s.signalsOfAll ops)

theorem infos_on : Record.infos (((s.on d).turns ops).flatMap Turn.records) =
    if d.journaled then s.eventsOf ops else [] := by
  rw [(s.turns_on d ops).2]
  exact d.infos_journalAll (s.signalsOfAll_not_info ops)

/-- Opening a session is its first refresh, so that a row of operations on it is a longer row. -/
theorem exists_before_onDisplay (source : Source) (rate : RateControl) (ops : List Operation) :
    ∃ before : Session, ∀ d : Display, let opened := onDisplay source rate d
      opened.session.performAll ops = (before.on d).performAll (.refresh :: ops) ∧
      (before.on d).turns (.refresh :: ops) =
        ⟨opened.session, opened.records, .ok .done⟩ :: opened.session.turns ops :=
  ⟨⟨.initial, source, rate, .blank false none⟩, fun _ => ⟨rfl, rfl⟩⟩

end Session

/-- In front of any new display, journaled or not and of any capacity, a session takes the same
turns: every operation ends in the same way, and the machine, the run and both snapshots are the
same after it. Of the events that a display without a capacity has by then, one with a capacity has
the last, as many as it has room for. At the level of events a journal has all of them, in order,
and nothing else. -/
theorem display_only_watches (source : Source) (rate : RateControl) (journaled journaled' : Bool)
    (capacity : Option Nat) (ops : List Operation) :
    let opened := Session.onDisplay source rate (.blank journaled capacity)
    let unbounded := Session.onDisplay source rate (.blank journaled' none)
    let s := opened.session.performAll ops
    let t := unbounded.session.performAll ops
    (opened.session.turns ops).map Turn.result = (unbounded.session.turns ops).map Turn.result ∧
    s.SameButLog t ∧
    s.display.events.capacity = capacity ∧ s.display.events.LastOf t.display.events.lines ∧
    Record.infos (opened.records ++ (opened.session.turns ops).flatMap Turn.records) =
      if journaled then t.display.events.lines else [] := by
  intro opened unbounded s t
  -- Opening a display amounts to one more refresh in front of the operations.
  obtain ⟨before, hbefore⟩ := Session.exists_before_onDisplay source rate ops
  obtain ⟨hs, hturns⟩ := hbefore (.blank journaled capacity)
  obtain ⟨ht, hturns'⟩ := hbefore (.blank journaled' none)
  have hresults : (opened.session.turns ops).map Turn.result =
      (unbounded.session.turns ops).map Turn.result := by
    have hsame := (before.turns_on (.blank journaled capacity) (.refresh :: ops)).1.trans
      (before.turns_on (.blank journaled' none) (.refresh :: ops)).1.symm
    rw [hturns, hturns'] at hsame
    exact congrArg List.tail hsame
  obtain ⟨hlast, hcapacity⟩ := before.events_on_blank (.refresh :: ops) journaled capacity
  obtain ⟨hall, hnone⟩ := before.events_on_blank (.refresh :: ops) journaled' none
  have hlines : t.display.events.lines = before.eventsOf (.refresh :: ops) := by
    rw [← ht] at hall hnone
    exact hall.lines_eq hnone
  have hinfos := before.infos_on (.blank journaled capacity) (.refresh :: ops)
  rw [hturns, List.flatMap_cons, ← hlines] at hinfos
  rw [← hs] at hlast hcapacity
  rw [← hlines] at hlast
  refine ⟨hresults, ?_, hcapacity, hlast, hinfos⟩
  have hsame := before.sameButLog_on (d := .blank journaled capacity) (e := .blank journaled' none)
    (.refresh :: ops) rfl rfl
  rw [← hs, ← ht] at hsame
  exact hsame

end TickMachine
