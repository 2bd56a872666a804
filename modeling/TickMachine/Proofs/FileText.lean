import TickMachine.Proofs.Labels
import TickMachine.Proofs.Lockstep
import TickMachine.Proofs.Turns
import TickMachine.Proofs.Utf8
import TickMachine.Proofs.Words

namespace TickMachine

namespace Text

/-- Every carriage return stands right in front of a line feed. -/
def ReturnsEndLines (cs : List Char) : Prop :=
  ∀ i, cs[i]? = some '\r' → cs[i + 1]? = some '\n'

instance (cs : List Char) : Decidable (ReturnsEndLines cs) :=
  decidable_of_iff (∀ i < cs.length, cs[i]? = some '\r' → cs[i + 1]? = some '\n')
    ⟨fun h i hi => h i (List.getElem?_eq_some_iff.mp hi).1 hi, fun h i _ => h i⟩

theorem ReturnsEndLines.tail {c : Char} {cs : List Char} (h : ReturnsEndLines (c :: cs)) :
    ReturnsEndLines cs := fun i hi => h (i + 1) hi

/-- The first line may have kept a carriage return that the second has lost. -/
def SameButReturn (a b : List Char) : Prop := a = b ∨ a = b ++ ['\r']

theorem splitOn_cons_of_ne {c : Char} (h : c ≠ '\n') (cs : List Char) :
    (c :: cs).splitOn '\n' = (cs.splitOn '\n').modifyHead (List.cons c) := by
  rw [List.splitOn_cons_eq_if_modifyHead, if_neg (by simpa using h)]

theorem splitOn_newline (cs : List Char) : ('\n' :: cs).splitOn '\n' = [] :: cs.splitOn '\n' := by
  rw [List.splitOn_cons_eq_if_modifyHead, if_pos (by simp)]

theorem splitOn_cons_related {c : Char} (hc : c ≠ '\n') {as bs : List Char}
    (h : List.Forall₂ SameButReturn (as.splitOn '\n') (bs.splitOn '\n')) :
    List.Forall₂ SameButReturn ((c :: as).splitOn '\n') ((c :: bs).splitOn '\n') := by
  rw [splitOn_cons_of_ne hc, splitOn_cons_of_ne hc]
  generalize as.splitOn '\n' = as' at h ⊢
  generalize bs.splitOn '\n' = bs' at h ⊢
  cases h with
  | nil => exact .nil
  | cons hfirst hrest =>
    refine .cons ?_ hrest
    obtain rfl | rfl := hfirst
    · exact .inl rfl
    · exact .inr rfl

theorem splitOn_unifyNewlines {cs : List Char} (h : ReturnsEndLines cs) :
    List.Forall₂ SameButReturn (cs.splitOn '\n') ((unifyNewlines cs).splitOn '\n') := by
  fun_induction unifyNewlines cs with
  | case1 => exact .cons (.inl rfl) .nil
  | case2 rest ih =>
    rw [splitOn_cons_of_ne (by decide), splitOn_newline, splitOn_newline]
    exact .cons (.inr rfl) (ih h.tail.tail)
  | case3 rest hrest ih =>
    -- A carriage return on its own is what the hypothesis excludes.
    have hfeed : rest[0]? = some '\n' := h 0 rfl
    cases rest with
    | nil => cases hfeed
    | cons d rest =>
      obtain rfl : d = '\n' := by simpa using hfeed
      exact absurd rfl (hrest rest)
  | case4 c rest hpair hreturn ih =>
    by_cases hc : c = '\n'
    · subst hc
      rw [splitOn_newline, splitOn_newline]
      exact .cons (.inl rfl) (ih h.tail)
    · exact splitOn_cons_related hc (ih h.tail)

theorem SameButReturn.trim {a b : List Char} (h : SameButReturn a b) :
    Text.trim (String.ofList a) = Text.trim (String.ofList b) := by
  unfold Text.trim
  rw [String.toList_ofList, String.toList_ofList]
  obtain rfl | rfl := h
  · rfl
  · rw [trimBlanks_concat (by decide)]

/-- Unified newlines cut a text into as many lines, which read the same when trimmed. -/
theorem lines_unifyNewlines {text : String} (h : ReturnsEndLines text.toList) :
    List.Forall₂ (fun a b => trim a = trim b)
      (lines (String.ofList (unifyNewlines text.toList))) (lines text) := by
  unfold lines
  rw [String.toList_ofList, List.forall₂_map_left_iff, List.forall₂_map_right_iff]
  exact (splitOn_unifyNewlines h).flip.imp fun _ _ hab => (SameButReturn.trim hab).symm

end Text

/-- A text that is written to a file is read back from it with its newlines unified. -/
theorem Source.read_encode (text : String) : (Source.file (.ok (Utf8.encode text))).read =
    .ok (String.ofList (Text.unifyNewlines text.toList)) := by
  rw [Source.read, textOfBytes, Utf8.decode_encode]
  rfl

namespace Program

/-- Two programs with the same labels and, up to the blanks around them, the same lines. -/
structure SameTrimmed (p q : Program) : Prop where
  labels : p.labels = q.labels
  lines : List.Forall₂ (fun a b => Text.trim a = Text.trim b) p.lines q.lines

theorem survey_of_trimmed {source source' : String}
    (h : List.Forall₂ (fun a b => Text.trim a = Text.trim b) (Text.lines source)
      (Text.lines source')) :
    survey (Text.lines source) = survey (Text.lines source') :=
  survey_congr (h.imp fun a b hab => by rw [Line.label?, Line.label?, hab])

theorem sameTrimmed_parse {source source' : String}
    (h : List.Forall₂ (fun a b => Text.trim a = Text.trim b) (Text.lines source)
      (Text.lines source')) : (parse source).SameTrimmed (parse source') :=
  ⟨congrArg Survey.table (survey_of_trimmed h), h⟩

end Program

theorem Scheduler.loading_of_trimmed {source source' : String}
    (h : List.Forall₂ (fun a b => Text.trim a = Text.trim b) (Text.lines source)
      (Text.lines source')) : loading source = loading source' := by
  have hsize : (Program.parse source).size = (Program.parse source').size := h.length_eq
  simp only [loading, Program.notices, Program.survey_of_trimmed h, hsize,
    (Program.sameTrimmed_parse h).labels]

namespace Cpu

/-- Two processors in the same state, with programs that differ in the blanks around their lines. -/
structure Twins (c d : Cpu) : Prop where
  program : c.program.SameTrimmed d.program
  machine : c.machine = d.machine
  index : c.index = d.index

variable {c d : Cpu}

theorem Twins.moveTo (h : Twins c d) (index : Int) : Twins (c.moveTo index) (d.moveTo index) :=
  ⟨h.program, h.machine, rfl⟩

theorem Twins.load (h : Twins c d) {p q : Program} (hp : p.SameTrimmed q) :
    Twins (c.load p) (d.load q) := ⟨hp, h.machine, h.index⟩

theorem Twins.worked (h : Twins c d) (index : Int) (i : Instruction) :
    c.worked index i = d.worked index i := by
  rw [Cpu.worked, Cpu.worked, h.machine,
    Instruction.effect_congr fun token _ => Program.resolve_congr h.program.labels token]

theorem Twins.execute (h : Twins c d) (index : Int) (text : String) :
    Reply.Alike Twins ((c.moveTo index).execute text) ((d.moveTo index).execute text) := by
  cases hd : Instruction.decode text with
  | error f =>
    simp only [Cpu.execute, hd]
    exact ⟨h.moveTo index, rfl, rfl⟩
  | ok i =>
    rw [execute_of_decode hd, execute_of_decode hd, h.worked]
    exact ⟨⟨h.program, rfl, rfl⟩, rfl, rfl⟩

theorem Twins.step (h : Twins c d) (index : Int) :
    Reply.Alike Twins (c.step index) (d.step index) :=
  step_alike (Program.lineAt_of_forall₂ h.program.lines index) (h.moveTo index) (h.execute index)

end Cpu

/-- A file that holds a text, beside the text. -/
def Bisimulation.fileText (text : String) (h : Text.ReturnsEndLines text.toList) :
    Bisimulation where
  cpu := Cpu.Twins
  source a b := a = .file (.ok (Utf8.encode text)) ∧ b = .text text
  display := Eq
  size h := h.program.lines.length_eq
  snapshot h := by rw [h.machine]
  step h := h.step
  reset h := ⟨h.program, congrArg Machine.reset h.machine, h.index⟩
  read := by
    rintro a b ⟨rfl, rfl⟩
    have hlines := Text.lines_unifyNewlines h
    refine .inr ⟨_, text, Source.read_encode text, rfl, ?_, ?_⟩
    · rw [Scheduler.loading_of_trimmed hlines]
    · intro c d hcd
      exact hcd.load (Program.sameTrimmed_parse hlines)
  accept := @Display.accept_congr

/-- Two turns with the same result, after which the schedulers differ at most in the blanks around
the lines of their programs, and the displays not at all. -/
structure Turn.SameButBlanks (t u : Turn Answer) : Prop where
  result : t.result = u.result
  size : t.session.scheduler.program.size = u.session.scheduler.program.size
  labels : t.session.scheduler.program.labels = u.session.scheduler.program.labels
  pc : t.session.scheduler.pc = u.session.scheduler.pc
  runState : t.session.scheduler.runState = u.session.scheduler.runState
  interval : t.session.scheduler.interval = u.session.scheduler.interval
  timer : t.session.scheduler.timer = u.session.scheduler.timer
  machine : t.session.scheduler.machine = u.session.scheduler.machine
  display : t.session.display = u.session.display

theorem Bisimulation.sameButBlanks_of_fileText {text : String}
    {h : Text.ReturnsEndLines text.toList} {t u : Turn Answer}
    (hturns : (fileText text h).Turns t u) : t.SameButBlanks u := by
  obtain ⟨hresult, ⟨hcpu, hrun, hpc, hinterval, htimer⟩, -, -, hdisplay⟩ := hturns
  have htwins : Cpu.Twins t.session.scheduler.cpu u.session.scheduler.cpu := hcpu
  exact ⟨hresult, htwins.program.lines.length_eq, htwins.program.labels, hpc, hrun, hinterval,
    htimer, htwins.machine, hdisplay⟩

/-- If carriage returns stand in front of line feeds only, a new session on a file that holds a text
and one on the text itself, with the same rate and display, take the same turns in every row of
operations. -/
theorem file_same_as_text (text : String) (h : Text.ReturnsEndLines text.toList)
    (rate : RateControl) (d : Display) (ops : List Operation)
    (hops : ∀ op ∈ ops, op.ofScheduler = true) :
    List.Forall₂ Turn.SameButBlanks
      ((Session.onDisplay (.file (.ok (Utf8.encode text))) rate d).session.turns ops)
      ((Session.onDisplay (.text text) rate d).session.turns ops) := by
  have hcpu : Cpu.Twins .initial .initial := ⟨⟨rfl, .nil⟩, rfl, rfl⟩
  have hsessions : (Bisimulation.fileText text h).Sessions
      (Session.onDisplay (.file (.ok (Utf8.encode text))) rate d).session
      (Session.onDisplay (.text text) rate d).session :=
    ⟨⟨hcpu, rfl, rfl, rfl, rfl⟩, ⟨rfl, rfl⟩, rfl, rfl⟩
  exact (Bisimulation.turns_related hsessions hops).imp fun _ _ =>
    Bisimulation.sameButBlanks_of_fileText

def returningText : String := "IMM 0 7\r\n.über\r\n\r\nNOT 9\r\nJMP 00 über\r\n"

theorem file_same_as_text_returningText :
    let rate := RateControl.fixed (.ofNumber (.int 2))
    let display := Display.blank false (some 3)
    let ops := [.start, .tick (.int 1), .executeNext, .executeNext, .executeNext, .executeNext,
      .tick (.real 0.25), .stop, .reset, .start]
    Text.ReturnsEndLines returningText.toList ∧
    (Source.file (.ok (Utf8.encode returningText))).read =
      .ok "IMM 0 7\n.über\n\nNOT 9\nJMP 00 über\n" ∧
    List.Forall₂ Turn.SameButBlanks
      ((Session.onDisplay (.file (.ok (Utf8.encode returningText))) rate display).session.turns ops)
      ((Session.onDisplay (.text returningText) rate display).session.turns ops) := by
  intro rate display ops
  have hreturns : Text.ReturnsEndLines returningText.toList := by decide +kernel
  have hread : String.ofList (Text.unifyNewlines returningText.toList) =
      "IMM 0 7\n.über\n\nNOT 9\nJMP 00 über\n" := by decide +kernel
  exact ⟨hreturns, (Source.read_encode returningText).trans (congrArg Except.ok hread),
    file_same_as_text returningText hreturns rate display ops (by decide)⟩

end TickMachine
