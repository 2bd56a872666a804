import TickMachine.Proofs.Step

namespace TickMachine.Cpu

/-- The processor and the index after `n` steps, each at the index that the one before gave. -/
def walk (c : Cpu) (index : Int) : Nat → Option (Cpu × Int)
  | 0 => some (c, index)
  | n + 1 =>
    match (c.step index).result with
    | .ok (some next) => (c.step index).state.walk next n
    | _ => none

theorem walk_of_next {c : Cpu} {index next : Int} (h : (c.step index).result = .ok (some next))
    (n : Nat) : c.walk index (n + 1) = (c.step index).state.walk next n := by
  simp only [walk, h]

theorem exists_next_of_walk {c : Cpu} {index : Int} {n : Nat} {x : Cpu × Int}
    (h : c.walk index (n + 1) = some x) : ∃ next, (c.step index).result = .ok (some next) := by
  rw [walk] at h
  split at h
  · rename_i next hr
    exact ⟨next, hr⟩
  · cases h

def frames (c : Cpu) : List Int := c.machine.stack.frames

/-- A call that returns to `back` is open over the frames `below` it. -/
def Open (c : Cpu) (back : Int) (below : List Int) : Prop :=
  ∃ inner, c.frames = inner ++ back :: below

theorem Open.depth_lt {c : Cpu} {back : Int} {below : List Int} (h : c.Open back below) :
    below.length < c.frames.length := by
  obtain ⟨inner, h⟩ := h
  rw [h, List.length_append, List.length_cons]
  omega

def ReturnsAt (c : Cpu) (index : Int) : Prop :=
  ∃ i, c.program.instructionAt? index = some i ∧ i.op = .ret

/-- A step keeps an open call open, or it is the return from that call. -/
theorem step_open {c : Cpu} {back : Int} {below : List Int} (h : c.Open back below) (index : Int) :
    (c.step index).state.Open back below ∨
      c.ReturnsAt index ∧ (c.step index).state.frames = below ∧
        (c.step index).result = .ok (some back) := by
  obtain ⟨inner, hf⟩ := h
  obtain hs | ⟨i, e, hi, he, hs, hr⟩ := step_cases c index
  · rw [hs]
    exact .inl ⟨inner, hf⟩
  rw [hs]
  have hcause := Instruction.causes_of_effect he
  cases e with
  | setRegister place value => exact .inl ⟨inner, hf⟩
  | setMemory place value => exact .inl ⟨inner, hf⟩
  | jump target => exact .inl ⟨inner, hf⟩
  | call target =>
    refine .inl ⟨(index + 1) :: inner, ?_⟩
    exact congrArg (List.cons (index + 1)) hf
  | ret target =>
    obtain ⟨hop, htop⟩ := hcause
    have htail : (c.machine.stack.drop).frames = c.frames.tail := rfl
    -- The innermost frame goes: either it belongs to a later call, or it is the one of this call.
    cases inner with
    | cons frame inner => exact .inl ⟨inner, by rw [frames, Effect.apply, htail, hf]; rfl⟩
    | nil =>
      have htarget : back = target := by
        have hhead : c.frames.head? = some target := htop
        rw [hf] at hhead
        simpa using hhead
      refine .inr ⟨⟨i, hi, hop⟩, ?_, ?_⟩
      · rw [frames, Effect.apply, htail, hf]
        rfl
      · rw [hr, htarget]
        rfl

/-- A run that has not come back to the depth under an open call has kept the call open. -/
theorem walk_open {c c' : Cpu} {index j back : Int} {below : List Int} {n : Nat}
    (hopen : c.Open back below) (hwalk : c.walk index n = some (c', j))
    (hdepth : ∀ k ≤ n, ∀ x ∈ c.walk index k, x.1.frames.length ≠ below.length) :
    c'.Open back below := by
  induction n generalizing c index with
  | zero =>
    cases hwalk
    exact hopen
  | succ n ih =>
    obtain ⟨next, hr⟩ := exists_next_of_walk hwalk
    have hshift := walk_of_next hr
    -- The first step cannot have closed the call: the depth after it is one of those excluded.
    have hstep : (c.step index).state.Open back below := by
      obtain hstill | ⟨_, hback, _⟩ := step_open hopen index
      · exact hstill
      · have hne := hdepth 1 (by omega) ((c.step index).state, next) (hshift 0)
        exact absurd (congrArg List.length hback) hne
    apply ih hstep (by rw [← hshift, hwalk])
    intro k hk x hx
    exact hdepth (k + 1) (by omega) x (by rw [hshift]; exact hx)

theorem step_of_call {c : Cpu} {index target : Int} {i : Instruction}
    (hi : c.program.instructionAt? index = some i) (hop : i.op = .call)
    (ht : i.target c.program 0 = .ok target) :
    (c.step index).result = .ok (some target) ∧
      (c.step index).state.frames = (index + 1) :: c.frames := by
  have he : i.effect c.program c.machine = .ok (.call target) := by
    simp only [Instruction.effect, hop, ht]
    rfl
  rw [step_of_instruction hi, worked, he]
  exact ⟨rfl, rfl⟩

/-- A call pushes the index after it. From then on, until the depth first falls back to what it was,
the frames under the call and its return index stay in place; the step that falls back is a return,
leaves exactly the frames from before the call, and goes on at the line after it. -/
theorem call_return_bracket (c : Cpu) (index target : Int) (i : Instruction)
    (hi : c.program.instructionAt? index = some i) (hop : i.op = .call)
    (ht : i.target c.program 0 = .ok target) :
    (c.step index).result = .ok (some target) ∧
    (c.step index).state.frames = (index + 1) :: c.frames ∧
    ∀ (n : Nat) (c' : Cpu) (j : Int), (c.step index).state.walk target n = some (c', j) →
      (∀ k ≤ n, ∀ x ∈ (c.step index).state.walk target k,
        x.1.frames.length ≠ c.frames.length) →
      c'.Open (index + 1) c.frames ∧
      ((c'.step j).state.frames.length = c.frames.length →
        c'.ReturnsAt j ∧ (c'.step j).state.frames = c.frames ∧
          (c'.step j).result = .ok (some (index + 1))) := by
  obtain ⟨hr, hf⟩ := step_of_call hi hop ht
  refine ⟨hr, hf, ?_⟩
  intro n c' j hwalk hdepth
  have hopen : c'.Open (index + 1) c.frames := walk_open ⟨[], hf⟩ hwalk hdepth
  refine ⟨hopen, fun hback => ?_⟩
  obtain hstill | hreturn := step_open hopen j
  · have hlt := hstill.depth_lt
    omega
  · exact hreturn

def nestedCalls : Cpu := initial.load (.parse "JMP 10 1\nJMP 10 2\nJMP 01")

theorem call_return_bracket_nestedCalls : ∃ c' j,
    (nestedCalls.step 0).state.walk 1 2 = some (c', j) ∧ c'.Open 1 [] ∧ c'.ReturnsAt j ∧
      (c'.step j).state.frames = [] ∧ (c'.step j).result = .ok (some 1) := by
  have hsome : ((nestedCalls.step 0).state.walk 1 2).isSome = true := by decide +kernel
  have hback : ∀ x ∈ (nestedCalls.step 0).state.walk 1 2,
      (x.1.step x.2).state.frames.length = nestedCalls.frames.length := by decide +kernel
  obtain ⟨⟨c', j⟩, hwalk⟩ := Option.isSome_iff_exists.mp hsome
  obtain ⟨_, _, hrun⟩ := call_return_bracket nestedCalls 0 1 ⟨.call, ["1"], "JMP 10 1"⟩
    (by decide +kernel) rfl rfl
  obtain ⟨hopen, hreturn⟩ := hrun 2 c' j hwalk (by decide +kernel)
  exact ⟨c', j, hwalk, hopen, hreturn (hback _ hwalk)⟩

end TickMachine.Cpu
