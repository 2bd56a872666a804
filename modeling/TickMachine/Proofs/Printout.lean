import TickMachine.Proofs.Assignment
import TickMachine.Proofs.Deadline
import TickMachine.Proofs.Shown

namespace TickMachine

def Cell.name : Cell → String
  | register place => "R" ++ toString place
  | memory place => "Addr " ++ toString place

def Cell.all : List Cell :=
  (List.range Hardware.registerCount).map register ++ (List.range Hardware.memorySize).map memory

/-- The cells of a machine in print, one line for each. -/
def Machine.printout (m : Machine) : String :=
  String.join (Cell.all.map fun c => c.name ++ ": " ++ toString (m.cell c) ++ "\n")

theorem Text.intercalate_newline {ls : List String} (h : ls ≠ []) :
    "\n".intercalate ls ++ "\n" = String.join (ls.map (· ++ "\n")) := by
  induction ls with
  | nil => exact absurd rfl h
  | cons line rest ih =>
    cases rest with
    | nil => simp
    | cons next rest =>
      rw [List.map_cons, String.join_cons, ← ih (List.cons_ne_nil next rest),
        String.intercalate_cons_cons, String.append_assoc]

theorem Bank.zipIdx_dump (b : Bank) :
    b.dump.zipIdx = (List.range b.size).map fun i => (((b.read i).toNat : Int), i) := by
  apply List.ext_getElem
  · simp
  · intro i h h'
    have hi : i < b.cells.length := by simpa [size] using h'
    simp [dump, read, List.getElem?_eq_getElem hi]

theorem Display.column_dump (name : String) {b : Bank} (h : 0 < b.size) :
    column name b.dump ++ "\n" = String.join ((List.range b.size).map fun i =>
      name ++ toString i ++ ": " ++ toString (b.read i).toNat ++ "\n") := by
  rw [column, Bank.zipIdx_dump, List.map_map, Text.intercalate_newline, List.map_map]
  · rfl
  · simp
    omega

theorem Session.stateText_of_truthful {s : Session} (h : s.Truthful)
    (hm : s.scheduler.machine.Shaped) :
    s.display.stateText = s.scheduler.machine.printout := by
  have hregisters := Display.column_dump "R" (b := s.scheduler.machine.registers)
    (by rw [hm.registerCount]; decide)
  have hmemory := Display.column_dump "Addr " (b := s.scheduler.machine.memory)
    (by rw [hm.memorySize]; decide)
  rw [hm.registerCount] at hregisters
  rw [hm.memorySize] at hmemory
  rw [Display.stateText, h.registers, h.memory, Display.registerText, Display.memoryText,
    hregisters, String.append_assoc, hmemory, ← String.join_append, Machine.printout, Cell.all,
    List.map_append, List.map_map, List.map_map]
  rfl

/-- A row of ticks and stops leads from one session to the other. -/
def Session.Waits (s s' : Session) : Prop :=
  ∃ ops, (∀ op ∈ ops, op.isWaiting = true) ∧ s' = s.performAll ops

namespace Session.Waits

variable {s s' s'' : Session}

theorem refl (s : Session) : s.Waits s := ⟨[], List.forall_mem_nil _, rfl⟩

theorem perform (s : Session) (op : Operation) (hop : op.isWaiting = true) :
    s.Waits (s.perform op).session :=
  ⟨[op], List.forall_mem_singleton.mpr hop, rfl⟩

theorem trans (h : s.Waits s') (h' : s'.Waits s'') : s.Waits s'' := by
  obtain ⟨ops, hops, rfl⟩ := h
  obtain ⟨later, hlater, rfl⟩ := h'
  refine ⟨ops ++ later, List.forall_mem_append.mpr ⟨hops, hlater⟩, ?_⟩
  rw [performAll_append]

end Session.Waits

namespace Host

variable {σ : Type} {w : World (StateM σ)} {timeout : Option Float} {patience : Nat} {t t' : σ}
  {h g : Host}

/-- A call of this round is interrupted. -/
inductive Disturbed (w : World (StateM σ)) (timeout : Option Float) (t : σ) (h : Host) : Prop where
  | reading {t₁ : σ} (hnow : w.now.run t = (.error .interrupt, t₁))
  | ticked {now : Float} {used : Bool} {t₁ t₂ : σ} (hnow : w.now.run t = (.ok now, t₁))
      (htick : (h.tick now).2 = .ok used) (hheed : w.heed.run t₁ = (.error .interrupt, t₂))
  | sleeping {now : Float} {used : Bool} {kept : List Record} {t₁ t₂ t₃ t₄ : σ}
      (hnow : w.now.run t = (.ok now, t₁)) (htick : (h.tick now).2 = .ok used)
      (hheed : w.heed.run t₁ = (.ok (), t₂)) (hover : (h.tick now).1.isOver timeout = false)
      (hjournal : (w.journal (h.tick now).1.records).run t₂ = (kept, t₃))
      (hsleep : w.sleep.run t₃ = (.error .interrupt, t₄))

/-- In one of the rounds of the loop a call is interrupted, or the loop comes back to its head with
the patience worn out. -/
def LoopIsInterrupted (w : World (StateM σ)) (timeout : Option Float) (patience : Nat) (t : σ)
    (h : Host) : Prop :=
  h.AtSomeHead w timeout
    (fun n t g => g.isRunning = true ∧ (n = 0 ∨ g.Disturbed w timeout t)) patience t

/-- The first reading of the clock is interrupted, or the loop after it is. -/
def IsInterrupted (w : World (StateM σ)) (timeout : Option Float) (t : σ) (h : Host) : Prop :=
  (∃ t', w.now.run t = (.error .interrupt, t')) ∨
    ∃ now t', w.now.run t = (.ok now, t') ∧
      (h.startAt now).LoopIsInterrupted w timeout w.patience t'

theorem ending_eq_interrupted_iff {o : Obstacle} : o.ending = .interrupted ↔ o = .interrupt := by
  cases o <;> simp [Obstacle.ending]

theorem Disturbed.end_eq (hd : h.Disturbed w timeout t) :
    ((h.beat w timeout).run t).1.2 = some .interrupted := by
  cases hd with
  | reading hnow => exact (Beats.unread hnow).end_eq
  | ticked hnow htick hheed => exact (Beats.disturbed hnow htick hheed).end_eq
  | sleeping hnow htick hheed hover hjournal hsleep =>
    exact (Beats.roused hnow htick hheed hover hjournal hsleep).end_eq

theorem Beats.interrupted_iff {e : HostEnd} (hb : Beats w timeout t h ((g, some e), t')) :
    e = .interrupted ↔ h.Disturbed w timeout t := by
  refine ⟨?_, ?_⟩
  · intro he
    cases hb with
    | unread hnow =>
      obtain rfl := ending_eq_interrupted_iff.mp he
      exact .reading hnow
    | failed => cases he
    | disturbed hnow htick hheed =>
      obtain rfl := ending_eq_interrupted_iff.mp he
      exact .ticked hnow htick hheed
    | timedOut => cases he
    | roused hnow htick hheed hover hjournal hsleep =>
      obtain rfl := ending_eq_interrupted_iff.mp he
      exact .sleeping hnow htick hheed hover hjournal hsleep
  · intro hd
    exact Option.some.inj (hb.end_eq.symm.trans hd.end_eq)

theorem Beats.not_disturbed (hb : Beats w timeout t h ((g, none), t')) :
    ¬ h.Disturbed w timeout t := by
  intro hd
  cases hb.end_eq.symm.trans hd.end_eq

theorem Loops.interrupted_iff {driven : Host × HostEnd}
    (hl : Loops w timeout patience t h driven) :
    driven.2 = .interrupted ↔ h.LoopIsInterrupted w timeout patience t := by
  unfold LoopIsInterrupted
  induction hl with
  | finished hrun =>
    rw [atSomeHead_of_end (round_of_not_running hrun)]
    simp [hrun]
  | worn hrun => exact ⟨fun _ => ⟨hrun, .inl rfl⟩, fun _ => rfl⟩
  | ends hrun hbeats =>
    rw [atSomeHead_of_end hbeats.round_eq_none, hbeats.interrupted_iff]
    simp [hrun]
  | next hrun hbeats hrest ih =>
    rw [atSomeHead_of_next (hbeats.round_eq_some hrun), ih]
    rintro ⟨-, hzero | hd⟩
    · cases hzero
    · exact hbeats.not_disturbed hd

theorem interrupted_drive_iff (w : World (StateM σ)) (timeout : Option Float) (t : σ) (h : Host) :
    ((h.drive w timeout).run t).1.2 = .interrupted ↔ h.IsInterrupted w timeout t := by
  rw [run_drive]
  unfold IsInterrupted
  rcases w.now.run t with ⟨o | now, t'⟩
  · change o.ending = .interrupted ↔ _
    rw [ending_eq_interrupted_iff]
    constructor
    · rintro rfl
      exact .inl ⟨t', rfl⟩
    · rintro (⟨_, heq⟩ | ⟨_, _, heq, _⟩)
      · cases heq
        rfl
      · cases heq
  · change ((loop w timeout w.patience (h.startAt now)).run t').1.2 = .interrupted ↔ _
    rw [(loops_loop w timeout w.patience t' (h.startAt now)).interrupted_iff]
    constructor
    · intro hloop
      exact .inr ⟨now, t', rfl, hloop⟩
    · rintro (⟨_, heq⟩ | ⟨_, _, heq, hloop⟩)
      · cases heq
      · cases heq
        exact hloop

theorem waits_tick (h : Host) (now : Float) : h.session.Waits (h.tick now).1.session :=
  .perform h.session (.tick (.real (now - h.last))) rfl

theorem waits_stop (h : Host) : h.session.Waits h.stop.session :=
  .perform h.session .stop rfl

theorem Beats.waits {r : (Host × Option HostEnd) × σ} (hb : Beats w timeout t h r) :
    h.session.Waits r.1.1.session := by
  cases hb with
  | unread => exact .refl _
  | @timedOut now => exact (h.waits_tick now).trans (h.tick now).1.waits_stop
  | @failed now | @disturbed now | @roused now | @slept now => exact h.waits_tick now

/-- The loop does nothing to its session but wait. -/
theorem Loops.waits {driven : Host × HostEnd} (hl : Loops w timeout patience t h driven) :
    h.session.Waits driven.1.session := by
  induction hl with
  | finished => exact .refl _
  | worn => exact .refl _
  | ends _ hbeats => exact hbeats.waits
  | next _ hbeats _ ih => exact hbeats.waits.trans ih

theorem waits_drive (w : World (StateM σ)) (timeout : Option Float) (t : σ) (h : Host) :
    h.session.Waits ((h.drive w timeout).run t).1.1.session := by
  rw [run_drive]
  rcases w.now.run t with ⟨o | now, t'⟩
  · exact .refl _
  · exact (loops_loop w timeout w.patience t' (h.startAt now)).waits

end Host

namespace Clock

variable {c : Clock} {folder : Folder} {timeout : Option Float} {patience : Nat}
  {dial : Dial} {h g : Host}

/-- A sleep is counted, and it is interrupted exactly from the appointed one on. -/
theorem sleep_spec {c : Clock} {dial dial' : Dial} {r : Except Obstacle Unit}
    (hs : c.sleep dial = (r, dial')) :
    dial'.sleeps = dial.sleeps + 1 ∧
      (r = .error .interrupt ↔ c.interruptAfter ≤ dial.sleeps + 1) := by
  unfold sleep at hs
  by_cases hlast : c.interruptAfter ≤ dial.sleeps + 1
  · simp only [if_pos hlast] at hs
    cases hs
    exact ⟨rfl, iff_of_true rfl hlast⟩
  · simp only [if_neg hlast] at hs
    cases hwake : c.wake (dial.sleeps + 1) dial.now with
    | error e =>
      simp only [hwake] at hs
      cases hs
      exact ⟨rfl, iff_of_false nofun hlast⟩
    | ok now =>
      simp only [hwake] at hs
      cases hs
      exact ⟨rfl, iff_of_false nofun hlast⟩

/-- A round on the clock that gets to its sleep is interrupted there if that is the last one. Else
the dial goes on counting the sleeps of the host. -/
theorem sleeps_of_beats {e : Option HostEnd} {dial' : Dial}
    (hb : Host.Beats (c.world folder) timeout dial h ((g, e), dial'))
    (hdial : dial.sleeps = h.sleeps) :
    (e = some .interrupted ∧ g.sleeps = h.sleeps + 1 ∧ c.interruptAfter ≤ h.sleeps + 1) ∨
      e ≠ some .interrupted ∧ dial'.sleeps = g.sleeps ∧
        (g.sleeps = h.sleeps ∧ e ≠ none ∨
          g.sleeps = h.sleeps + 1 ∧ h.sleeps + 1 < c.interruptAfter) := by
  rw [← hdial]
  cases hb with
  -- On a clock nothing disturbs the readings and the moment after a tick.
  | unread hnow => cases hnow
  | disturbed _ _ hheed => cases hheed
  | failed hnow =>
    cases hnow
    exact .inr ⟨nofun, hdial, .inl ⟨hdial.symm, nofun⟩⟩
  | timedOut hnow _ hheed =>
    cases hnow
    cases hheed
    exact .inr ⟨nofun, hdial, .inl ⟨hdial.symm, nofun⟩⟩
  | @roused _ _ _ o _ _ _ _ hnow _ hheed _ hjournal hsleep =>
    cases hnow
    cases hheed
    cases hjournal
    obtain ⟨hcount, hlast⟩ := sleep_spec hsleep
    cases o with
    | interrupt => exact .inl ⟨rfl, congrArg (· + 1) hdial.symm, hlast.mp rfl⟩
    | failure e =>
      have hearly := Nat.lt_of_not_le fun hle => nomatch hlast.mpr hle
      exact .inr ⟨nofun, hcount.trans (congrArg (· + 1) hdial),
        .inr ⟨congrArg (· + 1) hdial.symm, hearly⟩⟩
  | slept hnow _ hheed _ hjournal hsleep =>
    cases hnow
    cases hheed
    cases hjournal
    obtain ⟨hcount, hlast⟩ := sleep_spec hsleep
    have hearly := Nat.lt_of_not_le fun hle => nomatch hlast.mpr hle
    exact .inr ⟨nofun, hcount.trans (congrArg (· + 1) hdial),
      .inr ⟨congrArg (· + 1) hdial.symm, hearly⟩⟩

/-- The patience is not worn out before the sleep that is interrupted. -/
theorem sleeps_of_loops {driven : Host × HostEnd}
    (hl : Host.Loops (c.world folder) timeout patience dial h driven)
    (hdial : dial.sleeps = h.sleeps) (hleft : h.sleeps + patience = max 1 c.interruptAfter)
    (hfew : h.sleeps < max 1 c.interruptAfter) :
    driven.2 = .interrupted ↔ driven.1.sleeps = max 1 c.interruptAfter := by
  induction hl with
  | finished =>
    dsimp only
    exact ⟨nofun, fun hall => by omega⟩
  | worn => omega
  | ends _ hbeats =>
    obtain ⟨hend, hslept, hlast⟩ | ⟨hend, -, ⟨hslept, -⟩ | ⟨hslept, hearly⟩⟩ :=
      sleeps_of_beats hbeats hdial
    all_goals dsimp only
    · exact ⟨fun _ => by omega, fun _ => Option.some.inj hend⟩
    · exact ⟨fun he => absurd (congrArg some he) hend, fun hall => by omega⟩
    · exact ⟨fun he => absurd (congrArg some he) hend, fun hall => by omega⟩
  | next _ hbeats _ ih =>
    obtain ⟨hend, -⟩ | ⟨-, hdial', ⟨-, hsome⟩ | ⟨hslept, hearly⟩⟩ := sleeps_of_beats hbeats hdial
    · cases hend
    · exact absurd rfl hsome
    · exact ih hdial' (by omega) (by omega)

theorem interrupted_drive_iff_sleeps (c : Clock) (folder : Folder) (timeout : Option Float)
    (now : Float) (hzero : h.sleeps = 0) :
    let driven := ((h.drive (c.world folder) timeout).run ⟨now, 0⟩).1
    driven.2 = .interrupted ↔ driven.1.sleeps = max 1 c.interruptAfter := by
  rw [Host.run_drive]
  refine sleeps_of_loops (Host.loops_loop ..) hzero.symm ?_ ?_
  · change h.sleeps + max 1 c.interruptAfter = max 1 c.interruptAfter
    omega
  · change h.sleeps < max 1 c.interruptAfter
    omega

end Clock

/-- Why a file gives no program: it cannot be read, or it is no UTF-8. -/
inductive Source.Unloadable (contents : Except FileError (List UInt8)) : SourceError → Prop where
  /-- A name that no file can have is not a matter of the file. -/
  | unreadable (e : FileError) (h : contents = .error e) (hname : e ≠ .embeddedNul) :
      Unloadable contents (.unreadable e)
  | undecodable (bytes : List UInt8) (e : Utf8.DecodeError) (h : contents = .ok bytes)
      (hdecode : Utf8.decode bytes = .error e) : Unloadable contents (.undecodable e)

theorem Source.read_of_unloadable {contents : Except FileError (List UInt8)} {cause : SourceError}
    (h : Unloadable contents cause) : (file contents).read = .error cause := by
  cases h with
  | unreadable e h _ => rw [h, read]
  | undecodable bytes e h hdecode =>
    rw [h, read, textOfBytes, hdecode]
    rfl

theorem Source.unloadable_of_read {contents : Except FileError (List UInt8)} {e : SourceError}
    (hread : (file contents).read = .error e) :
    e = .unreadable .embeddedNul ∨ Unloadable contents e := by
  cases contents with
  | error f =>
    obtain rfl : SourceError.unreadable f = e := Except.error.inj hread
    by_cases hname : f = .embeddedNul
    · exact .inl (by rw [hname])
    · exact .inr (.unreadable f rfl hname)
  | ok bytes =>
    rw [read, textOfBytes] at hread
    cases hdecode : Utf8.decode bytes with
    | error f =>
      rw [hdecode] at hread
      obtain rfl : SourceError.undecodable f = e := Except.error.inj hread
      exact .inr (.undecodable bytes f rfl hdecode)
    | ok chars =>
      rw [hdecode] at hread
      cases hread

namespace Command

variable {options : Options} {source : Source}

theorem reported_of_unloadable {contents : Except FileError (List UInt8)} {cause : SourceError}
    (h : Source.Unloadable contents cause) : reported? (.source cause) = some cause := by
  cases h with
  | unreadable e _ hname =>
    cases e with
    | embeddedNul => exact absurd rfl hname
    | _ => rfl
  | undecodable => rfl

theorem launch_of_error (options : Options) {e : SourceError} (hread : source.read = .error e) :
    (launch options source).result = .error (.source e) ∧
      (launch options source).records = [⟨.info, "CPU Started."⟩] ∧
      (launch options source).session.scheduler = .initial := by
  rw [launch, Session.start, Scheduler.start]
  have h : (prepare options source).session.source.read = .error e := hread
  rw [h]
  exact ⟨rfl, rfl, rfl⟩

variable {σ : Type} (w : World (StateM σ)) (t : σ)

theorem run_of_failed_launch {e : Failure} (hstart : (launch options source).result = .error e) :
    ((run w options source).run t).1 =
      notStarted (.ofString options.filename) (opening options source) e := by
  unfold run opening
  change ((proceed w options _ (launch options source)).run t).1 = _
  generalize launch options source = turn at hstart ⊢
  match turn, hstart with
  | ⟨_, _, .error _⟩, rfl => rfl

/-- How the loop of the command ends; without a launch there is nothing to drive. -/
def driven (options : Options) (source : Source) : Host × HostEnd :=
  match (launch options source).result with
  | .ok _ => (((launched options source).drive w options.timeout).run t).1
  | .error _ => (launched options source, .finished)

theorem driven_of_launch (hstart : (launch options source).result = .ok ()) :
    driven w t options source = (((launched options source).drive w options.timeout).run t).1 := by
  rw [driven, hstart]

/-- The session that the command leaves: an interrupted run is stopped before the end. -/
def left : Host × HostEnd → Session
  | (h, .interrupted) => h.session.stop.session
  | (h, _) => h.session

theorem waits_left {s : Session} {driven : Host × HostEnd} (hwaits : s.Waits driven.1.session) :
    s.Waits (left driven) := by
  obtain ⟨last, e⟩ := driven
  cases e with
  -- The stop after the interruption is one more operation of waiting.
  | interrupted => exact hwaits.trans last.waits_stop
  | _ => exact hwaits

/-- Waiting writes no cell behind the display's back. -/
theorem stateText_of_waiting {s : Session} (hwaits : (launch options source).session.Waits s) :
    s.display.stateText = s.scheduler.machine.printout := by
  obtain ⟨ops, hops, rfl⟩ := hwaits
  have hquiet : ∀ op ∈ .start :: ops, op.writesCell = false := by
    refine List.forall_mem_cons.mpr ⟨rfl, ?_⟩
    intro op hop
    match op, hops op hop with
    | .tick _, _ => rfl
    | .stop, _ => rfl
  have hprepared : (prepare options source).session.Truthful := ⟨rfl, rfl⟩
  have hshown : ((prepare options source).session.performAll (.start :: ops)).Truthful :=
    Session.truthful_performAll hprepared hquiet
  have hshaped := Session.shaped_performAll (s := (prepare options source).session)
    Machine.shaped_initial (.start :: ops)
  exact Session.stateText_of_truthful hshown hshaped

/-- What an outcome gives away of the loop before it. -/
structure Tells (driven : Host × HostEnd) (o : Outcome) : Prop where
  printed : ∀ code ∈ [0, 2, 3], o.ending.map Exit.code = .ok code →
    o.stdout = (left driven).scheduler.machine.printout
  interrupted_iff : o.ending.map Exit.code = .ok 3 ↔ driven.2 = .interrupted
  silent : ∀ e, o.ending = .error e → o.stdout = ""

theorem conclude_code_interrupted (h : Host) (e : HostEnd) :
    (conclude h e).ending.map Exit.code = .ok 3 ↔ e = .interrupted := by
  cases e <;> simp [conclude, ended, Except.map, Exit.code]

theorem tells_conclude {driven : Host × HostEnd}
    (hwaits : (launch options source).session.Waits driven.1.session) :
    Tells driven (conclude driven.1 driven.2) := by
  have htext : (left driven).display.stateText = (left driven).scheduler.machine.printout :=
    stateText_of_waiting (waits_left hwaits)
  have hcode := conclude_code_interrupted driven.1 driven.2
  obtain ⟨last, e⟩ := driven
  cases e with
  | finished => exact ⟨fun _ _ _ => htext, hcode, nofun⟩
  | timedOut => exact ⟨fun _ _ _ => htext, hcode, nofun⟩
  | interrupted => exact ⟨fun _ _ _ => htext, hcode, nofun⟩
  | failed e => exact ⟨nofun, hcode, fun _ _ => rfl⟩

theorem notStarted_spec (path : Path) (records : List Record) (e : Failure) :
    (notStarted path records e).stdout = "" ∧ (notStarted path records e).sleeps = 0 ∧
      ∀ code ∈ [0, 2, 3], (notStarted path records e).ending.map Exit.code ≠ .ok code := by
  unfold notStarted
  split
  · exact ⟨rfl, rfl, by simp [Except.map, Exit.code]⟩
  · exact ⟨rfl, rfl, by simp [Except.map]⟩

theorem tells_run (options : Options) (source : Source) :
    Tells (driven w t options source) ((run w options source).run t).1 := by
  cases hstart : (launch options source).result with
  | ok _ =>
    rw [run_of_launch w t hstart, driven_of_launch w t hstart]
    exact tells_conclude (Host.waits_drive w options.timeout t (launched options source))
  | error e =>
    obtain ⟨hsilent, _, hcode⟩ :=
      notStarted_spec (.ofString options.filename) (opening options source) e
    rw [← run_of_failed_launch w t hstart] at hsilent hcode
    refine ⟨?_, ?_, fun _ _ => hsilent⟩
    · intro code hmem heq
      exact absurd heq (hcode code hmem)
    · rw [driven, hstart]
      exact ⟨fun heq => absurd heq (hcode 3 (by decide)), nofun⟩

theorem interrupted_iff (options : Options) (source : Source) :
    ((run w options source).run t).1.ending.map Exit.code = .ok 3 ↔
      (launch options source).result = .ok () ∧
        (launched options source).IsInterrupted w options.timeout t := by
  rw [(tells_run w t options source).interrupted_iff, ← Host.interrupted_drive_iff]
  cases hstart : (launch options source).result with
  | ok _ => simp [driven, hstart]
  | error e => simp [driven, hstart]

theorem conclude_sleeps (h : Host) (e : HostEnd) : (conclude h e).sleeps = h.sleeps := by
  cases e <;> rfl

theorem interrupted_iff_sleeps (options : Options) (source : Source) (clock : Clock)
    (folder : Folder) (now : Float) :
    let o := ((run (clock.world folder) options source).run ⟨now, 0⟩).1
    o.ending.map Exit.code = .ok 3 ↔ o.sleeps = max 1 clock.interruptAfter := by
  intro o
  cases hstart : (launch options source).result with
  | ok _ =>
    have ho : o = _ := run_of_launch (clock.world folder) ⟨now, 0⟩ hstart
    rw [ho, conclude_code_interrupted, conclude_sleeps]
    exact Clock.interrupted_drive_iff_sleeps clock folder options.timeout now rfl
  | error e =>
    obtain ⟨_, hzero, hcode⟩ :=
      notStarted_spec (.ofString options.filename) (opening options source) e
    have ho : o = _ := run_of_failed_launch (clock.world folder) ⟨now, 0⟩ hstart
    rw [ho, hzero]
    refine ⟨fun heq => absurd heq (hcode 3 (by decide)), fun hmax => ?_⟩
    omega

variable {contents : Except FileError (List UInt8)} {cause : SourceError}

theorem run_of_unloadable (options : Options) (h : Source.Unloadable contents cause) :
    ((run w options (.file contents)).run t).1 =
      ⟨"", banner :: (prepare options (.file contents)).records ++
        [⟨.info, "CPU Started."⟩, unableToLoad (.ofString options.filename) cause], 0,
        .ok .sourceError⟩ := by
  obtain ⟨hresult, hrecords, _⟩ := launch_of_error options (Source.read_of_unloadable h)
  rw [run_of_failed_launch w t hresult, opening, hrecords, notStarted, reported_of_unloadable h]
  simp

theorem sourceError_iff (options : Options) (contents : Except FileError (List UInt8)) :
    ((run w options (.file contents)).run t).1.ending.map Exit.code = .ok 100 ↔
      ∃ cause, Source.Unloadable contents cause := by
  constructor
  · intro hcode
    cases hread : (Source.file contents).read with
    | ok text =>
      rw [run_of_launch w t (launch_of_text options hread)] at hcode
      generalize (((launched options (.file contents)).drive w options.timeout).run t).1.2 = e
        at hcode
      cases e <;> simp [conclude, ended, Except.map, Exit.code] at hcode
    | error e =>
      obtain rfl | hbad := Source.unloadable_of_read hread
      · -- A name with a NUL in it is not reported, so that failure leaves the command.
        obtain ⟨hresult, _⟩ := launch_of_error options hread
        rw [run_of_failed_launch w t hresult] at hcode
        cases hcode
      · exact ⟨e, hbad⟩
  · rintro ⟨cause, h⟩
    rw [run_of_unloadable w t options h]
    rfl

theorem run_invoke {options : Options} {contents : Except FileError (List UInt8)}
    {world : Level → World (StateM σ)} {args : List String} {t₀ : σ}
    (hargs : Request.ofArgs args = .ok (.run options)) (hworld : world (levelOf options) = w)
    (hread : (w.read (.ofString options.filename)).run t₀ = (contents, t)) :
    ((invoke world args).run t₀).1 =
      .ok (levelOf options, ((run w options (.file contents)).run t).1) := by
  subst hworld
  rw [invoke, hargs]
  simp only [StateT.run_bind, hread]
  rfl

end Command

/-- The command exits with the code for a source error exactly when its file cannot be read or
decoded: then it prints nothing, and nothing has been loaded or executed. With the other codes it
prints the cells of the machine that it leaves, and it is the loop's being interrupted that makes
one of them: while the clock is read, after a tick or in a sleep. A failure that leaves the command
prints nothing. Arguments that ask for a run get this one, in whatever state the reading of the file
leaves the surroundings. -/
theorem command_prints_machine {σ : Type} (w : World (StateM σ)) (t : σ) (options : Options)
    (contents : Except FileError (List UInt8)) :
    let source := Source.file contents
    let o := ((Command.run w options source).run t).1
    (o.ending.map Exit.code = .ok 100 ↔ ∃ cause, Source.Unloadable contents cause) ∧
    (∀ cause, Source.Unloadable contents cause →
      o.stdout = "" ∧ o.sleeps = 0 ∧
      (Command.launch options source).session.scheduler = .initial ∧
      o.records = Command.banner :: (Command.prepare options source).records ++
        [⟨.info, "CPU Started."⟩, Command.unableToLoad (.ofString options.filename) cause]) ∧
    Command.Tells (Command.driven w t options source) o ∧
    (o.ending.map Exit.code = .ok 3 ↔ (Command.launch options source).result = .ok () ∧
      (Command.launched options source).IsInterrupted w options.timeout t) ∧
    (∀ (clock : Clock) (folder : Folder) (now : Float),
      let o := ((Command.run (clock.world folder) options source).run ⟨now, 0⟩).1
      (o.ending.map Exit.code = .ok 3 ↔ o.sleeps = max 1 clock.interruptAfter)) ∧
    (∀ (h : Host) (patience : Nat), h.session = (Command.launch options source).session →
      let driven := ((h.loop w options.timeout patience).run t).1
      Command.Tells driven (Command.conclude driven.1 driven.2)) ∧
    ∀ (world : Level → World (StateM σ)) (args : List String) (t₀ : σ),
      Request.ofArgs args = .ok (.run options) → world (Command.levelOf options) = w →
      (w.read (.ofString options.filename)).run t₀ = (contents, t) →
      ((Command.invoke world args).run t₀).1 = .ok (Command.levelOf options, o) := by
  intro source o
  refine ⟨Command.sourceError_iff w t options contents, ?_, Command.tells_run w t options source,
    Command.interrupted_iff w t options source, Command.interrupted_iff_sleeps options source,
    ?_, ?_⟩
  · intro cause h
    have ho : o = _ := Command.run_of_unloadable w t options h
    obtain ⟨_, _, hscheduler⟩ := Command.launch_of_error options (Source.read_of_unloadable h)
    rw [ho]
    exact ⟨rfl, rfl, hscheduler, rfl⟩
  · intro h patience hsession
    apply Command.tells_conclude
    rw [← hsession]
    exact (Host.loops_loop w options.timeout patience t h).waits
  · intro world args t₀ hargs hworld hread
    exact Command.run_invoke w t hargs hworld hread

def Folder.looping : Folder := ⟨[("prog", "IMM 3 300\nJMP 00 1".toUTF8.toList), ("rest", [0xFF])]⟩

/-- A run that only an interruption ends, a file that is no text, and a name with a NUL. -/
theorem command_prints_machine_looping :
    let options : Options := ⟨false, none, none, "prog"⟩
    let w := (Clock.steady (.int 1) 3).world Folder.looping
    let dial : Clock.Dial := ⟨0.0, 0⟩
    let contents := Folder.looping.read (.ofString "prog")
    let run := fun contents => ((Command.run w options (.file contents)).run dial).1
    let last := Command.left (Command.driven w dial options (.file contents))
    ((Command.invoke (fun _ => w) ["prog"]).run dial).1 = .ok (.info, run contents) ∧
      (run contents).ending.map Exit.code = .ok 3 ∧
      (Command.launched options (.file contents)).IsInterrupted w none dial ∧
      (run contents).stdout = last.scheduler.machine.printout ∧
      last.scheduler.machine.cell (.register 3) = 44 ∧
      (run (.ok [0xFF])).ending.map Exit.code = .ok 100 ∧
      (run (.ok [0xFF])).stdout = "" ∧
      (run (.error .embeddedNul)).stdout = "" := by
  intro options w dial contents run last
  obtain ⟨-, -, htells, hiff, hsleeps, -, hinvoke⟩ :=
    command_prints_machine w dial options contents
  obtain ⟨hcode, hbad, -⟩ := command_prints_machine w dial options (.ok [0xFF])
  obtain ⟨-, -, hnul, -⟩ := command_prints_machine w dial options (.error .embeddedNul)
  have hslept : (run contents).sleeps = 3 := by decide +kernel
  have hinterrupted : (run contents).ending.map Exit.code = .ok 3 :=
    (hsleeps (Clock.steady (.int 1) 3) Folder.looping 0.0).mpr hslept
  obtain ⟨e, hdecode⟩ : ∃ e, Utf8.decode [0xFF] = .error e := ⟨_, rfl⟩
  have hunloadable : Source.Unloadable (.ok [0xFF]) (.undecodable e) :=
    .undecodable [0xFF] e rfl hdecode
  refine ⟨hinvoke (fun _ => w) ["prog"] dial rfl rfl rfl, hinterrupted, (hiff.mp hinterrupted).2,
    htells.printed 3 (by decide) hinterrupted, by decide +kernel, hcode.mpr ⟨_, hunloadable⟩,
    (hbad _ hunloadable).1, ?_⟩
  exact hnul.silent (.source (.unreadable .embeddedNul)) rfl

end TickMachine
