import TickMachine.CommandLine.Clock
import TickMachine.CommandLine.Command
import TickMachine.Proofs.Rate
import TickMachine.Proofs.RunState

namespace TickMachine

theorem Scheduler.tick_runState {s : Scheduler} (hrun : s.isRunning = true) (elapsed : Number) :
    (s.tick elapsed).state.runState ≠ .idle := by
  by_cases h : (s.tick elapsed).result = .ok true ∧ s.AtEnd
  · rw [(tick_of_used_atEnd h.1 h.2).runState]
    decide
  · have hrunning : s.runState = .running := of_decide_eq_true hrun
    rw [tick_runState_of_not_end h, hrunning]
    decide

namespace Host

variable {σ : Type} {w : World (StateM σ)} {timeout : Option Float} {patience : Nat} {t t' : σ}
  {h g : Host}

def runState (h : Host) : RunState := h.session.scheduler.runState

theorem isRunning_iff : h.isRunning = true ↔ h.runState = .running := by
  simp [isRunning, Scheduler.isRunning, runState]

theorem tick_runState (hrun : h.isRunning = true) (now : Float) :
    (h.tick now).1.runState ≠ .idle := Scheduler.tick_runState hrun _

theorem stop_runState (h : Host) :
    h.stop.runState = if h.runState = .running then .idle else h.runState := by
  show h.session.scheduler.stop.state.runState = _
  unfold Scheduler.stop Scheduler.isRunning runState
  by_cases hrun : h.session.scheduler.runState = .running <;> simp [hrun]

theorem run_await {α : Type} (h : Host) (call : StateM σ (Except Obstacle α))
    (next : α → StateM σ (Host × Option HostEnd)) (t : σ) :
    (h.await call next).run t =
      match call.run t with
      | (.error o, t') => ((h, some o.ending), t')
      | (.ok answer, t') => (next answer).run t' := by
  rw [await, StateT.run_bind]
  rcases call.run t with ⟨o | answer, t'⟩ <;> rfl

/-- The ways in which a round can go. -/
inductive Beats (w : World (StateM σ)) (timeout : Option Float) (t : σ) (h : Host) :
    (Host × Option HostEnd) × σ → Prop where
  | unread {o : Obstacle} {t₁ : σ} (hnow : w.now.run t = (.error o, t₁)) :
      Beats w timeout t h ((h, some o.ending), t₁)
  | failed {now : Float} {e : Failure} {t₁ : σ} (hnow : w.now.run t = (.ok now, t₁))
      (htick : (h.tick now).2 = .error e) :
      Beats w timeout t h (((h.tick now).1, some (.failed e)), t₁)
  | disturbed {now : Float} {used : Bool} {o : Obstacle} {t₁ t₂ : σ}
      (hnow : w.now.run t = (.ok now, t₁)) (htick : (h.tick now).2 = .ok used)
      (hheed : w.heed.run t₁ = (.error o, t₂)) :
      Beats w timeout t h (((h.tick now).1, some o.ending), t₂)
  | timedOut {now : Float} {used : Bool} {t₁ t₂ : σ} (hnow : w.now.run t = (.ok now, t₁))
      (htick : (h.tick now).2 = .ok used) (hheed : w.heed.run t₁ = (.ok (), t₂))
      (hover : (h.tick now).1.isOver timeout = true) :
      Beats w timeout t h (((h.tick now).1.stop, some .timedOut), t₂)
  | roused {now : Float} {used : Bool} {kept : List Record} {o : Obstacle} {t₁ t₂ t₃ t₄ : σ}
      (hnow : w.now.run t = (.ok now, t₁)) (htick : (h.tick now).2 = .ok used)
      (hheed : w.heed.run t₁ = (.ok (), t₂)) (hover : (h.tick now).1.isOver timeout = false)
      (hjournal : (w.journal (h.tick now).1.records).run t₂ = (kept, t₃))
      (hsleep : w.sleep.run t₃ = (.error o, t₄)) :
      Beats w timeout t h (((h.tick now).1.asleep kept, some o.ending), t₄)
  | slept {now : Float} {used : Bool} {kept : List Record} {t₁ t₂ t₃ t₄ : σ}
      (hnow : w.now.run t = (.ok now, t₁)) (htick : (h.tick now).2 = .ok used)
      (hheed : w.heed.run t₁ = (.ok (), t₂)) (hover : (h.tick now).1.isOver timeout = false)
      (hjournal : (w.journal (h.tick now).1.records).run t₂ = (kept, t₃))
      (hsleep : w.sleep.run t₃ = (.ok (), t₄)) :
      Beats w timeout t h (((h.tick now).1.asleep kept, none), t₄)

theorem run_rest (w : World (StateM σ)) (timeout : Option Float) (h : Host) (t : σ)
    (hover : h.isOver timeout = false) :
    (h.rest w timeout).run t =
      match (w.journal h.records).run t with
      | (kept, t') =>
        ((h.asleep kept).await w.sleep fun _ => return (h.asleep kept, none)).run t' := by
  rw [rest, if_neg (by simp [hover])]
  rfl

theorem beats_beat (w : World (StateM σ)) (timeout : Option Float) (t : σ) (h : Host) :
    Beats w timeout t h ((h.beat w timeout).run t) := by
  rw [beat, run_await]
  rcases hnow : w.now.run t with ⟨o | now, t₁⟩
  · exact .unread hnow
  cases htick : (h.tick now).2 with
  | error e =>
    simp only [htick]
    exact .failed hnow htick
  | ok used =>
    simp only [htick, afterTick, run_await]
    rcases hheed : w.heed.run t₁ with ⟨o | _, t₂⟩
    · exact .disturbed hnow htick hheed
    cases hover : (h.tick now).1.isOver timeout with
    | true =>
      simp only [rest, hover, if_true]
      exact .timedOut hnow htick hheed hover
    | false =>
      rcases hjournal : (w.journal (h.tick now).1.records).run t₂ with ⟨kept, t₃⟩
      simp only [run_rest w timeout _ t₂ hover, hjournal, run_await]
      rcases hsleep : w.sleep.run t₃ with ⟨o | _, t₄⟩
      · exact .roused hnow htick hheed hover hjournal hsleep
      · exact .slept hnow htick hheed hover hjournal hsleep

theorem Beats.eq_beat {r : (Host × Option HostEnd) × σ} (hb : Beats w timeout t h r) :
    (h.beat w timeout).run t = r := by
  rw [beat, run_await]
  cases hb with
  | unread hnow => rw [hnow]
  | failed hnow htick =>
    rw [hnow]
    simp only [htick]
    rfl
  | disturbed hnow htick hheed =>
    rw [hnow]
    simp only [htick, afterTick, run_await, hheed]
  | timedOut hnow htick hheed hover =>
    rw [hnow]
    simp only [htick, afterTick, run_await, hheed, rest, hover, if_true]
    rfl
  | roused hnow htick hheed hover hjournal hsleep =>
    rw [hnow]
    simp only [htick, afterTick, run_await, hheed, run_rest _ _ _ _ hover, hjournal, hsleep]
  | slept hnow htick hheed hover hjournal hsleep =>
    rw [hnow]
    simp only [htick, afterTick, run_await, hheed, run_rest _ _ _ _ hover, hjournal, hsleep]
    rfl

theorem Beats.end_eq {e : Option HostEnd} (hb : Beats w timeout t h ((g, e), t')) :
    ((h.beat w timeout).run t).1.2 = e := by
  rw [hb.eq_beat]

/-- The head of the loop after one round, if the loop comes back to it. -/
def round (w : World (StateM σ)) (timeout : Option Float) (t : σ) (h : Host) : Option (σ × Host) :=
  if h.isRunning then
    match (h.beat w timeout).run t with
    | ((_, some _), _) => none
    | ((beaten, none), t') => some (t', beaten)
  else none

/-- All the ways in which the loop ends or goes on, with so much patience left. -/
inductive Loops (w : World (StateM σ)) (timeout : Option Float) :
    Nat → σ → Host → Host × HostEnd → Prop where
  | finished {n : Nat} {t : σ} {h : Host} (hrun : h.isRunning = false) :
      Loops w timeout n t h (h, .finished)
  | worn {t : σ} {h : Host} (hrun : h.isRunning = true) : Loops w timeout 0 t h (h, .interrupted)
  | ends {n : Nat} {t t' : σ} {h g : Host} {e : HostEnd} (hrun : h.isRunning = true)
      (hbeats : Beats w timeout t h ((g, some e), t')) : Loops w timeout (n + 1) t h (g, e)
  | next {n : Nat} {t t' : σ} {h g : Host} {driven : Host × HostEnd} (hrun : h.isRunning = true)
      (hbeats : Beats w timeout t h ((g, none), t')) (hrest : Loops w timeout n t' g driven) :
      Loops w timeout (n + 1) t h driven

theorem loops_loop (w : World (StateM σ)) (timeout : Option Float) (patience : Nat) (t : σ)
    (h : Host) : Loops w timeout patience t h ((h.loop w timeout patience).run t).1 := by
  induction patience generalizing t h with
  | zero =>
    rw [loop]
    cases hrun : h.isRunning with
    | false => exact .finished hrun
    | true => exact .worn hrun
  | succ n ih =>
    rw [loop]
    cases hrun : h.isRunning with
    | false => exact .finished hrun
    | true =>
      have hbeats := beats_beat w timeout t h
      rw [if_pos rfl, StateT.run_bind]
      rcases hbeat : (h.beat w timeout).run t with ⟨⟨g, e | _⟩, t'⟩
      · rw [hbeat] at hbeats
        exact .next hrun hbeats (ih t' g)
      · rw [hbeat] at hbeats
        exact .ends hrun hbeats

/-- At this head of the loop or at a later one, something holds of the patience that is left, of the
surroundings and of the host. -/
def AtSomeHead (w : World (StateM σ)) (timeout : Option Float) (P : Nat → σ → Host → Prop) :
    Nat → σ → Host → Prop
  | 0, t, h => P 0 t h
  | n + 1, t, h =>
    P (n + 1) t h ∨ ∃ t' g, h.round w timeout t = some (t', g) ∧ g.AtSomeHead w timeout P n t'

section AtSomeHead

variable {P : Nat → σ → Host → Prop}

theorem round_of_not_running (hrun : h.isRunning = false) : h.round w timeout t = none := by
  simp [round, hrun]

theorem Beats.round_eq_none {e : HostEnd} (hb : Beats w timeout t h ((g, some e), t')) :
    h.round w timeout t = none := by
  simp [round, hb.eq_beat]

theorem Beats.round_eq_some (hb : Beats w timeout t h ((g, none), t'))
    (hrun : h.isRunning = true) : h.round w timeout t = some (t', g) := by
  simp [round, hrun, hb.eq_beat]

theorem atSomeHead_of_end (hround : h.round w timeout t = none) :
    h.AtSomeHead w timeout P patience t ↔ P patience t h := by
  cases patience <;> simp [AtSomeHead, hround]

theorem atSomeHead_of_next (hround : h.round w timeout t = some (t', g))
    (hnot : ¬ P (patience + 1) t h) :
    h.AtSomeHead w timeout P (patience + 1) t ↔ g.AtSomeHead w timeout P patience t' := by
  simp [AtSomeHead, hround, hnot]

end AtSomeHead

/-- The tick of this round halts the run, and the time is up when it does. -/
structure HaltsLate (w : World (StateM σ)) (timeout : Option Float) (t : σ) (h : Host) : Prop where
  running : h.isRunning = true
  late : ∃ now used t₁ t₂, w.now.run t = (.ok now, t₁) ∧ (h.tick now).2 = .ok used ∧
    (h.tick now).1.runState = .halted ∧ w.heed.run t₁ = (.ok (), t₂) ∧
    (h.tick now).1.isOver timeout = true

/-- In one of the rounds of the loop, the program halts with the time up. -/
def LoopEndsLate (w : World (StateM σ)) (timeout : Option Float) (patience : Nat) (t : σ)
    (h : Host) : Prop :=
  h.AtSomeHead w timeout (fun n t g => 0 < n ∧ g.HaltsLate w timeout t) patience t

/-- The clock is read, and then the loop ends late. -/
def EndsLate (w : World (StateM σ)) (timeout : Option Float) (t : σ) (h : Host) : Prop :=
  ∃ now t', w.now.run t = (.ok now, t') ∧
    (h.startAt now).LoopEndsLate w timeout w.patience t'

/-- What the end of a loop says about its run, where `late` tells whether the program halted with
the time up. -/
structure Reported (driven : Host × HostEnd) (late : Prop) : Prop where
  halted_of_finished : driven.2 = .finished → driven.1.runState = .halted
  halted_iff : driven.2 = .timedOut → (driven.1.runState = .halted ↔ late)
  idle_iff : driven.2 = .timedOut → (driven.1.runState = .idle ↔ ¬ late)
  timedOut_of_late : late → driven.2 = .timedOut

/-- A loop that is cut short tells nothing apart. -/
theorem reported_cut_short {e : HostEnd} {late : Prop} (hfinished : e ≠ .finished)
    (htimed : e ≠ .timedOut) (hnot : ¬ late) : Reported (g, e) late where
  halted_of_finished hend := absurd hend hfinished
  halted_iff hend := absurd hend htimed
  idle_iff hend := absurd hend htimed
  timedOut_of_late hlate := absurd hlate hnot

/-- With the time up, the last tick decides: a run that it left in progress is put off, and one that
it halted stays halted. -/
theorem reported_timedOut {late : Prop} (hidle : h.runState ≠ .idle)
    (hlate : late ↔ h.runState = .halted) : Reported (h.stop, .timedOut) late := by
  have hstop := h.stop_runState
  cases hstate : h.runState with
  | idle => exact absurd hstate hidle
  | running =>
    simp only [hstate, if_true] at hstop
    have hnot : ¬ late := by simp [hlate, hstate]
    exact ⟨nofun, fun _ => by simp [hstop, hnot], fun _ => by simp [hstop, hnot], fun _ => rfl⟩
  | halted =>
    simp only [hstate, reduceCtorEq, if_false] at hstop
    have hhalted : late := by simp [hlate, hstate]
    exact ⟨nofun, fun _ => by simp [hstop, hhalted], fun _ => by simp [hstop, hhalted],
      fun _ => rfl⟩

theorem ending_ne_verdict (o : Obstacle) : o.ending ≠ .finished ∧ o.ending ≠ .timedOut := by
  cases o <;> simp [Obstacle.ending]

theorem reported_obstacle (o : Obstacle) {late : Prop} (hnot : ¬ late) :
    Reported (g, o.ending) late := by
  obtain ⟨hfinished, htimed⟩ := ending_ne_verdict o
  exact reported_cut_short hfinished htimed hnot

theorem HaltsLate.end_eq (hlate : h.HaltsLate w timeout t) :
    ((h.beat w timeout).run t).1.2 = some .timedOut := by
  obtain ⟨_, now, used, t₁, t₂, hnow, htick, _, hheed, hover⟩ := hlate
  exact (Beats.timedOut hnow htick hheed hover).end_eq

theorem Beats.reported {e : HostEnd} (hb : Beats w timeout t h ((g, some e), t'))
    (hrun : h.isRunning = true) : Reported (g, e) (h.HaltsLate w timeout t) := by
  have hnot : e ≠ .timedOut → ¬ h.HaltsLate w timeout t := by
    intro he hlate
    exact he (Option.some.inj (hb.end_eq.symm.trans hlate.end_eq))
  cases hb with
  | @unread o => exact reported_obstacle o (hnot (ending_ne_verdict o).2)
  | failed => exact reported_cut_short nofun nofun (hnot nofun)
  | @disturbed _ _ o => exact reported_obstacle o (hnot (ending_ne_verdict o).2)
  | @timedOut now used _ _ hnow htick hheed hover =>
    refine reported_timedOut (tick_runState hrun now) ⟨?_, ?_⟩
    · rintro ⟨_, now', used, t₁, t₂, hnow', _, hhalted, _⟩
      cases hnow.symm.trans hnow'
      exact hhalted
    · intro hhalted
      exact ⟨hrun, now, used, _, _, hnow, htick, hhalted, hheed, hover⟩
  | @roused _ _ _ o => exact reported_obstacle o (hnot (ending_ne_verdict o).2)

theorem Beats.goes_on (hb : Beats w timeout t h ((g, none), t')) (hrun : h.isRunning = true) :
    ¬ h.HaltsLate w timeout t ∧ g.runState ≠ .idle := by
  constructor
  · intro hlate
    cases hb.end_eq.symm.trans hlate.end_eq
  · cases hb with
    | @slept now => exact tick_runState hrun now

theorem Loops.reported {driven : Host × HostEnd} (hl : Loops w timeout patience t h driven)
    (hidle : h.runState ≠ .idle) : Reported driven (h.LoopEndsLate w timeout patience t) := by
  unfold LoopEndsLate
  -- At a later head of the loop the run may have halted already: it is only known not to be idle.
  induction hl with
  | @finished n t h hrun =>
    have hhalted : h.runState = .halted := by
      cases hstate : h.runState with
      | idle => exact absurd hstate hidle
      | halted => rfl
      | running => simp [isRunning_iff.mpr hstate] at hrun
    rw [atSomeHead_of_end (round_of_not_running hrun)]
    refine ⟨fun _ => hhalted, nofun, nofun, ?_⟩
    rintro ⟨_, hlate⟩
    simp [hlate.running] at hrun
  | worn =>
    refine reported_cut_short nofun nofun ?_
    rintro ⟨hlt, _⟩
    exact Nat.lt_irrefl 0 hlt
  | ends hrun hbeats =>
    rw [atSomeHead_of_end hbeats.round_eq_none]
    simpa using hbeats.reported hrun
  | next hrun hbeats hrest ih =>
    -- This round does not end late, so the run does exactly if the rest of it does.
    obtain ⟨hnot, hidle'⟩ := hbeats.goes_on hrun
    rw [atSomeHead_of_next (hbeats.round_eq_some hrun) fun hlate => hnot hlate.2]
    exact ih hidle'

theorem run_drive (h : Host) (w : World (StateM σ)) (timeout : Option Float) (t : σ) :
    (h.drive w timeout).run t =
      match w.now.run t with
      | (.error o, t') => ((h, o.ending), t')
      | (.ok now, t') => ((h.startAt now).loop w timeout w.patience).run t' := by
  rw [drive, StateT.run_bind]
  rcases w.now.run t with ⟨o | now, t'⟩ <;> rfl

theorem endsLate_of_reading {now : Float} (hnow : w.now.run t = (.ok now, t')) :
    h.EndsLate w timeout t ↔ (h.startAt now).LoopEndsLate w timeout w.patience t' := by
  constructor
  · rintro ⟨now', t'', hnow', hlate⟩
    cases hnow.symm.trans hnow'
    exact hlate
  · intro hlate
    exact ⟨now, t', hnow, hlate⟩

theorem reported_drive (hidle : h.runState ≠ .idle) :
    Reported ((h.drive w timeout).run t).1 (h.EndsLate w timeout t) := by
  rw [run_drive]
  rcases hnow : w.now.run t with ⟨o | now, t'⟩
  · refine reported_obstacle o ?_
    rintro ⟨now, t', hnow', _⟩
    cases hnow.symm.trans hnow'
  · have hl := (loops_loop w timeout w.patience t' (h.startAt now)).reported hidle
    rwa [endsLate_of_reading hnow]

end Host

namespace Command

def launch (options : Options) (source : Source) : Turn Unit :=
  (prepare options source).session.start

/-- The rate of the command always has an interval, so a text is all that a launch needs. -/
theorem launch_of_text (options : Options) {source : Source} {text : String}
    (htext : source.read = .ok text) : (launch options source).result = .ok () := by
  obtain ⟨seconds, hrate⟩ : ∃ seconds, (rateOf options).interval = .ok seconds :=
    RateControl.exists_interval_of_fixed _
  exact (Session.start_of_interval (s := (prepare options source).session) htext hrate).1

def opening (options : Options) (source : Source) : List Record :=
  banner :: (prepare options source).records ++ (launch options source).records

def launched (options : Options) (source : Source) : Host :=
  .begin (launch options source).session (opening options source).reverse

variable {σ : Type} (w : World (StateM σ)) {options : Options} {source : Source} (t : σ)

theorem run_of_launch (hstart : (launch options source).result = .ok ()) :
    let driven := (((launched options source).drive w options.timeout).run t).1
    ((run w options source).run t).1 = conclude driven.1 driven.2 := by
  unfold run launched opening
  change ((proceed w options _ (launch options source)).run t).1 = _
  generalize launch options source = turn at hstart ⊢
  match turn, hstart with
  | ⟨_, _, .ok _⟩, _ => rfl

theorem isRunning_of_launch (hstart : (launch options source).result = .ok ()) :
    (launched options source).isRunning = true := by
  obtain ⟨text, seconds, _, _, hstate⟩ := Scheduler.start_eq_ok hstart
  show (launch options source).session.scheduler.isRunning = true
  unfold launch Session.start Session.absorb
  rw [hstate]
  rfl

theorem conclude_code (h : Host) (e : HostEnd) :
    ((conclude h e).ending.map Exit.code = .ok 0 ↔ e = .finished) ∧
      ((conclude h e).ending.map Exit.code = .ok 2 ↔ e = .timedOut) := by
  cases e <;> simp [conclude, ended, Except.map, Exit.code]

end Command

/-- When the loop comes to an end by itself, the program has halted if the loop says so, and if it
says that the time is up, the run was cut short unless it halted in that last round: then, and only
then, a halt is reported as a timeout. Of the command, exit code 0 is the one verdict and exit code
2 the other. -/
theorem halt_reported_unless_late {σ : Type} (w : World (StateM σ)) (timeout : Option Float)
    (h : Host) (t : σ) :
    (h.isRunning = true →
      Host.Reported ((h.drive w timeout).run t).1 (h.EndsLate w timeout t) ∧
      ∀ patience, Host.Reported ((h.loop w timeout patience).run t).1
        (h.LoopEndsLate w timeout patience t)) ∧
    (∀ (g : Host) (e : HostEnd), let outcome := Command.conclude g e
      (outcome.ending.map Exit.code = .ok 0 ↔ e = .finished) ∧
      (outcome.ending.map Exit.code = .ok 2 ↔ e = .timedOut)) ∧
    ∀ (options : Options) (source : Source), (Command.launch options source).result = .ok () →
      let begun := Command.launched options source
      let driven := ((begun.drive w options.timeout).run t).1
      begun.isRunning = true ∧
      ((Command.run w options source).run t).1 = Command.conclude driven.1 driven.2 := by
  refine ⟨?_, Command.conclude_code, ?_⟩
  · intro hrun
    have hidle : h.runState ≠ .idle := by simp [Host.isRunning_iff.mp hrun]
    exact ⟨Host.reported_drive hidle,
      fun patience => (Host.loops_loop w timeout patience t h).reported hidle⟩
  · intro options source hstart
    exact ⟨Command.isRunning_of_launch hstart, Command.run_of_launch w t hstart⟩

def Options.withTimeout (seconds : Float) : Options := ⟨false, none, some seconds, "prog"⟩

/-- One line, which halts in the second round on a clock that goes on by a second a round. -/
def Source.halting : Source := .file (.ok [0x4E, 0x4F, 0x4F, 0x50])

/-- With a timeout of one second the halt counts as a timeout, with one of two seconds it does
not. -/
theorem halt_reported_unless_late_halting :
    let late := Options.withTimeout 1.0
    let early := Options.withTimeout 2.0
    let w := (Clock.steady (.int 1) 5000).world ⟨[]⟩
    let dial : Clock.Dial := ⟨0.0, 0⟩
    let driven := fun options : Options =>
      (((Command.launched options .halting).drive w options.timeout).run dial).1
    ((Command.run w late .halting).run dial).1.ending.map Exit.code = .ok 2 ∧
      (driven late).1.runState = .halted ∧
      (Command.launched late .halting).EndsLate w late.timeout dial ∧
      ((Command.run w early .halting).run dial).1.ending.map Exit.code = .ok 0 ∧
      (driven early).1.runState = .halted := by
  intro late early w dial driven
  obtain ⟨hloop, hcode, hcommand⟩ :=
    halt_reported_unless_late w late.timeout (Command.launched late .halting) dial
  obtain ⟨hloop', -⟩ :=
    halt_reported_unless_late w early.timeout (Command.launched early .halting) dial
  have htext : Source.halting.read = .ok "NOOP" := rfl
  have hend : (driven late).2 = .timedOut := by decide +kernel
  have hhalted : (driven late).1.runState = .halted := by decide +kernel
  have hend' : (driven early).2 = .finished := by decide +kernel
  obtain ⟨hrun, ho⟩ := hcommand late .halting (Command.launch_of_text late htext)
  obtain ⟨hrun', ho'⟩ := hcommand early .halting (Command.launch_of_text early htext)
  refine ⟨?_, hhalted, ((hloop hrun).1.halted_iff hend).mp hhalted, ?_,
    (hloop' hrun').1.halted_of_finished hend'⟩
  · rw [ho]
    exact (hcode _ _).2.mpr hend
  · rw [ho']
    exact (hcode _ _).1.mpr hend'

end TickMachine
