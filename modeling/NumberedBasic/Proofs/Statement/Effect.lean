import NumberedBasic.Proofs.Evaluation.Progress

/-! # What statements do

A statement that succeeds changes the machine in one way, which its keyword and
the values that it evaluated determine. Apart from that only the random numbers
have moved.
-/

namespace NumberedBasic

section Stack

variable {Position α : Type}

namespace Frame

theorem subroutine?_eq_some_iff {frame : Frame Position} {position : Position} :
    frame.subroutine? = some position ↔ frame = .subroutine position := by
  cases frame <;> simp [subroutine?]

theorem repetition?_eq_some_iff {frame : Frame Position} {position : Position} :
    frame.repetition? = some position ↔ frame = .repetition position := by
  cases frame <;> simp [repetition?]

theorem count?_eq_some_iff {frame : Frame Position} {step limit : Number} {position : Position} :
    frame.count? = some (step, limit, position) ↔ frame = .count step limit position := by
  cases frame <;> simp [count?]

end Frame

theorem ControlStack.top_eq_ok_iff {stack : ControlStack Position}
    {select : Frame Position → Option α} {complaint : String} {found : α} :
    stack.top select complaint = .ok found ↔
      ∃ frame rest, stack = frame :: rest ∧ select frame = some found := by
  cases stack with
  | nil => simp [top]
  | cons frame rest => cases h : select frame <;> simp [top, h]

theorem ControlStack.pop_eq_ok_iff {stack rest : ControlStack Position}
    {select : Frame Position → Option α} {complaint : String} {found : α} :
    stack.pop select complaint = .ok (found, rest) ↔
      ∃ frame, stack = frame :: rest ∧ select frame = some found := by
  cases stack with
  | nil => simp [pop, top, Except.map]
  | cons frame tail =>
    cases h : select frame with
    | none => simp [pop, top, h, Except.map]
    | some found' =>
      simp only [pop, top, h, Except.map, List.tail_cons, Except.ok.injEq, Prod.mk.injEq,
        List.cons.injEq]
      constructor
      · rintro ⟨rfl, rfl⟩
        exact ⟨frame, ⟨rfl, rfl⟩, h⟩
      · rintro ⟨_, ⟨rfl, rfl⟩, hf⟩
        exact ⟨Option.some.inj (h.symm.trans hf), rfl⟩

end Stack

namespace Statement

def loopStart : Eval (Text × Number) := do
  let name ← Eval.name
  Eval.demand ['=']
  return (name, ← Eval.sum)

/-- What a counted loop evaluates once its variable has the first value. -/
def loopRange : Eval (Number × Number) := do
  Eval.require (← Eval.keyword ['t', 'o']) (.expected ['t', 'o'])
  let limit ← Eval.sum
  return (limit, ← loopStep)

/-- The change that the statement behind all conditions makes to a machine whose
random numbers have already moved. -/
inductive Effect (m : Machine) : Option Keyword → Machine → Prop where
  | skip : Effect m none m
  | assign (name : Text) (value : Number) : Effect m (some .assign) (m.assign name value)
  | remark : Effect m (some .remark) m
  | jump {number : Number} {position : Nat} (running : m.running = true)
      (found : (number.truncate?.bind fun line => m.address.idxOf? line) = some position) :
      Effect m (some .jump) { m with position }
  | call {number : Number} {position : Nat} (running : m.running = true)
      (found : (number.truncate?.bind fun line => m.address.idxOf? line) = some position) :
      Effect m (some .call) { m with stack := .subroutine m.position :: m.stack, position }
  | resume {position : Nat} {stack : ControlStack Nat}
      (top : m.stack = .subroutine position :: stack) :
      Effect m (some .resume) { m with stack, position }
  | pause : Effect m (some .pause) { m with halted := true }
  | finish : Effect m (some .finish) { m with position := m.address.length }
  | count (name : Text) (first limit : Number) {step : Number} (moves : step.isZero = false) :
      Effect m (some .count)
        { m.assign name first with stack := .count step limit m.position :: m.stack }
  | countAgain {name : Text} {previous step limit : Number} {position : Nat}
      {stack : ControlStack Nat} (bound : m.variables.get? name = some previous)
      (top : m.stack = .count step limit position :: stack)
      (within : isPast (previous.add step) step limit = false) :
      Effect m (some .next) { m.assign name (previous.add step) with position }
  | countDone {name : Text} {previous step limit : Number} {position : Nat}
      {stack : ControlStack Nat} (bound : m.variables.get? name = some previous)
      (top : m.stack = .count step limit position :: stack)
      (past : isPast (previous.add step) step limit = true) :
      Effect m (some .next) { m.assign name (previous.add step) with stack }
  | enter : Effect m (some .enter) { m with stack := .repetition m.position :: m.stack }
  | repeatAgain {position : Nat} {stack : ControlStack Nat}
      (top : m.stack = .repetition position :: stack) :
      Effect m (some .close) { m with position }
  | repeatDone {position : Nat} {stack : ControlStack Nat}
      (top : m.stack = .repetition position :: stack) :
      Effect m (some .close) { m with stack }
  | print (text : String) : Effect m (some .print) (m.write text)
  | input {prompt : Text} {names : List Text} {values : List (Text × Number)}
      (read : fieldValues names
        (lineFields (m.console.write (String.ofList prompt)).readLine.1) = .ok values) :
      Effect m (some .input)
        (values.foldl (fun m v => m.assign v.1 v.2)
          { m with console := (m.console.write (String.ofList prompt)).readLine.2 })
  | reseed (seed : Int) : Effect m (some .reseed) { m with generator := Generator.ofSeed seed }

/-- The statement has its effect after some draws of random numbers. -/
def Changes (k : Option Keyword) (m m' : Machine) : Prop :=
  ∃ draws, Effect { m with generator := m.generator.drawn draws } k m'

/-- No statement has a part in these components of a machine. -/
structure Fixed (m m' : Machine) : Prop where
  program : m'.program = m.program
  address : m'.address = m.address
  current : m'.current = m.current
  running : m'.running = m.running
  clock : m'.clock = m.clock
  room : m'.room = m.room

theorem Fixed.assignAll (m : Machine) (values : List (Text × Number)) :
    Fixed m (values.foldl (fun m v => m.assign v.1 v.2) m) := by
  induction values generalizing m with
  | nil => exact ⟨rfl, rfl, rfl, rfl, rfl, rfl⟩
  | cons value values ih =>
    obtain ⟨program, address, current, running, clock, room⟩ := ih (m.assign value.1 value.2)
    exact ⟨program, address, current, running, clock, room⟩

theorem Effect.fixed {k : Option Keyword} {m m' : Machine} (h : Effect m k m') : Fixed m m' := by
  cases h with
  | input read =>
    obtain ⟨program, address, current, running, clock, room⟩ := Fixed.assignAll _ _
    exact ⟨program, address, current, running, clock, room⟩
  | _ => exact ⟨rfl, rfl, rfl, rfl, rfl, rfl⟩

end Statement

namespace Statement

open Exec

variable {s t : Execution} {u : Unit}

theorem Changes.of_evaluates {k : Option Keyword} {m : Machine} (h : s.Evaluates t)
    (he : Effect t.machine k m) : Changes k s.machine m := by
  obtain ⟨draws, hd⟩ := h.exists_drawn
  exact ⟨draws, hd ▸ he⟩

theorem assign_changes (h : assign s = .ok u t) : Changes (some .assign) s.machine t.machine := by
  obtain ⟨name, s₁, -, h₁, h⟩ := Execution.Evaluates.bind_ok Eval.name_advances h
  obtain ⟨_, s₂, -, h₂, h⟩ := Execution.Evaluates.bind_ok (Eval.demand_advances _) h
  obtain ⟨value, s₃, -, h₃, h⟩ := Execution.Evaluates.bind_ok Eval.expression_advances h
  cases h
  exact .of_evaluates ((h₁.trans h₂).trans h₃) (.assign name value)

theorem remark_changes (h : evaluate Eval.skipLine s = .ok u t) :
    Changes (some .remark) s.machine t.machine :=
  .of_evaluates (.of_ok Eval.skipLine_advances h) .remark

theorem target_ok {position : Nat} (h : target s = .ok position t) :
    s.Evaluates t ∧ t.machine.running = true ∧ ∃ number : Number,
      (number.truncate?.bind fun line => t.machine.address.idxOf? line) = some position := by
  obtain ⟨m, s₁, hm, h⟩ := bind_eq_ok_iff.mp h
  cases hm
  obtain ⟨_, s₂, hr, h₂, h⟩ := Execution.Evaluates.bind_ok (Eval.require_advances _ _) h
  obtain ⟨number, s₃, -, h₃, h⟩ := Execution.Evaluates.bind_ok (Eval.sumBelow_advances 1) h
  obtain ⟨m, s₄, hm, h⟩ := bind_eq_ok_iff.mp h
  cases hm
  have running : s.machine.running = true := by
    obtain ⟨r, hr, -⟩ := evaluate_eq_ok_iff.mp hr
    exact (Eval.require_eq_ok_iff.mp hr).1
  have he := h₂.trans h₃
  obtain ⟨draws, hd⟩ := he.exists_drawn
  cases found : number.truncate?.bind fun line => s₃.machine.address.idxOf? line with
  | none => simp [found] at h
  | some index =>
    obtain ⟨rfl, rfl⟩ : index = position ∧ s₃ = t := by simpa [found] using h
    exact ⟨he, by rw [hd]; exact running, number, found⟩

theorem jump_changes (h : jump s = .ok u t) : Changes (some .jump) s.machine t.machine := by
  obtain ⟨position, s₁, ht, h⟩ := bind_eq_ok_iff.mp h
  obtain ⟨he, running, number, found⟩ := target_ok ht
  cases h
  exact .of_evaluates he (.jump running found)

theorem call_changes (h : call s = .ok u t) : Changes (some .call) s.machine t.machine := by
  obtain ⟨position, s₁, ht, h⟩ := bind_eq_ok_iff.mp h
  obtain ⟨he, running, number, found⟩ := target_ok ht
  cases h
  exact .of_evaluates he (.call running found)

theorem resume_changes (h : resume s = .ok u t) : Changes (some .resume) s.machine t.machine := by
  obtain ⟨m, s₁, hm, h⟩ := bind_eq_ok_iff.mp h
  cases hm
  obtain ⟨⟨position, stack⟩, s₂, hp, h⟩ := bind_eq_ok_iff.mp h
  obtain ⟨popped, rfl⟩ := ofExcept_ok hp
  cases h
  obtain ⟨frame, hs, hf⟩ := ControlStack.pop_eq_ok_iff.mp popped
  obtain rfl := Frame.subroutine?_eq_some_iff.mp hf
  exact .of_evaluates (.refl s) (.resume hs)

theorem one_isZero : (1 : Number).isZero = false := by
  decide +kernel

theorem loopStep_ok {context : Context} {r r' : Reading} {step : Number}
    (h : loopStep context r = .ok step r') : step.isZero = false := by
  obtain ⟨found, r₁, -, h⟩ := Eval.bind_eq_ok_iff.mp h
  cases found with
  | false =>
    obtain ⟨rfl, -⟩ : (1 : Number) = step ∧ r₁ = r' := by simpa using h
    exact one_isZero
  | true =>
    obtain ⟨value, r₂, -, h⟩ := Eval.bind_eq_ok_iff.mp h
    cases hz : value.isZero with
    | true => simp [hz] at h
    | false =>
      obtain ⟨rfl, -⟩ : value = step ∧ r₂ = r' := by simpa [hz] using h
      exact hz

theorem loopStart_advances : loopStart.Advances :=
  Eval.name_advances.bind fun _ => (Eval.demand_advances _).bind fun _ =>
    Eval.sum_advances.bind fun _ => .pure _

theorem loopRange_advances : loopRange.Advances :=
  (Eval.keyword_advances _).bind fun found => (Eval.require_advances found _).bind fun _ =>
    Eval.sum_advances.bind fun _ => loopStep_advances.bind fun _ => .pure _

theorem count_eq : count =
    evaluate loopStart >>= fun (name, first) => change (·.assign name first) >>= fun _ =>
      evaluate loopRange >>= fun (limit, step) => push (.count step limit) := by
  simp only [count, loopStart, loopRange, Exec.liftM_eq, evaluate_bind, evaluate_pure, bind_assoc,
    pure_bind]

theorem loopRange_ok {context : Context} {r r' : Reading} {limit step : Number}
    (h : loopRange context r = .ok (limit, step) r') : step.isZero = false := by
  obtain ⟨found, r₁, -, h⟩ := Eval.bind_eq_ok_iff.mp h
  obtain ⟨_, r₂, -, h⟩ := Eval.bind_eq_ok_iff.mp h
  obtain ⟨limit', r₃, -, h⟩ := Eval.bind_eq_ok_iff.mp h
  obtain ⟨step', r₄, hs, h⟩ := Eval.bind_eq_ok_iff.mp h
  cases h
  exact loopStep_ok hs

theorem count_changes (h : count s = .ok u t) : Changes (some .count) s.machine t.machine := by
  rw [count_eq] at h
  obtain ⟨⟨name, first⟩, s₁, -, h₁, h⟩ := Execution.Evaluates.bind_ok loopStart_advances h
  obtain ⟨_, s₂, ha, h⟩ := bind_eq_ok_iff.mp h
  cases ha
  obtain ⟨⟨limit, step⟩, s₃, hr, h₃, h⟩ := Execution.Evaluates.bind_ok loopRange_advances h
  cases h
  obtain ⟨r, hr, -⟩ := evaluate_eq_ok_iff.mp hr
  obtain ⟨draws, hd⟩ := h₁.exists_drawn
  obtain ⟨draws', hd'⟩ := h₃.exists_drawn
  refine ⟨draws + draws', ?_⟩
  rw [hd', hd, ← Generator.drawn_drawn]
  exact .count name first limit (loopRange_ok hr)

theorem next_changes (h : next s = .ok u t) : Changes (some .next) s.machine t.machine := by
  obtain ⟨name, s₁, -, h₁, h⟩ := Execution.Evaluates.bind_ok Eval.name_advances h
  obtain ⟨found, s₂, hv, h⟩ := bind_eq_ok_iff.mp h
  obtain ⟨bound, rfl⟩ : s₁.machine.variables.get? name = found ∧ s₁ = s₂ := by
    cases hv
    exact ⟨rfl, rfl⟩
  cases found with
  | none => cases h
  | some previous =>
    obtain ⟨m, s₃, hm, h⟩ := bind_eq_ok_iff.mp h
    cases hm
    obtain ⟨⟨step, limit, position⟩, s₄, ht, h⟩ := bind_eq_ok_iff.mp h
    obtain ⟨top, rfl⟩ := ofExcept_ok ht
    obtain ⟨frame, stack, hs, hf⟩ := ControlStack.top_eq_ok_iff.mp top
    obtain rfl := Frame.count?_eq_some_iff.mp hf
    obtain ⟨_, s₅, ha, h⟩ := bind_eq_ok_iff.mp h
    cases ha
    cases hp : isPast (previous.add step) step limit with
    | true =>
      rw [if_pos hp] at h
      cases h
      obtain rfl : stack = s₁.machine.stack.tail := by rw [hs, List.tail_cons]
      exact .of_evaluates h₁ (.countDone bound hs hp)
    | false =>
      rw [if_neg (by simp [hp])] at h
      cases h
      exact .of_evaluates h₁ (.countAgain bound hs hp)

theorem enterLoop_changes (h : enterLoop s = .ok u t) :
    Changes (some .enter) s.machine t.machine := by
  cases h
  exact .of_evaluates (.refl s) .enter

theorem closeLoop_changes (h : closeLoop s = .ok u t) :
    Changes (some .close) s.machine t.machine := by
  obtain ⟨again, s₁, -, h₁, h⟩ := Execution.Evaluates.bind_ok repeats_advances h
  obtain ⟨m, s₂, hm, h⟩ := bind_eq_ok_iff.mp h
  cases hm
  obtain ⟨position, s₃, ht, h⟩ := bind_eq_ok_iff.mp h
  obtain ⟨top, rfl⟩ := ofExcept_ok ht
  obtain ⟨frame, stack, hs, hf⟩ := ControlStack.top_eq_ok_iff.mp top
  obtain rfl := Frame.repetition?_eq_some_iff.mp hf
  cases again with
  | true =>
    cases h
    exact .of_evaluates h₁ (.repeatAgain hs)
  | false =>
    cases h
    obtain rfl : stack = s₁.machine.stack.tail := by rw [hs, List.tail_cons]
    exact .of_evaluates h₁ (.repeatDone hs)

theorem print_changes (h : print s = .ok u t) : Changes (some .print) s.machine t.machine := by
  obtain ⟨text, s₁, -, h₁, h⟩ := Execution.Evaluates.bind_ok printList_advances h
  cases h
  exact .of_evaluates h₁ (.print text)

theorem input_changes (h : input s = .ok u t) : Changes (some .input) s.machine t.machine := by
  obtain ⟨⟨prompt, names⟩, s₁, -, h₁, h⟩ := Execution.Evaluates.bind_ok inputList_advances h
  obtain ⟨line, s₂, ha, h⟩ := bind_eq_ok_iff.mp h
  cases ha
  obtain ⟨values, s₃, hv, h⟩ := bind_eq_ok_iff.mp h
  obtain ⟨read, rfl⟩ := ofExcept_ok hv
  cases h
  exact .of_evaluates h₁ (.input read)

theorem reseed_changes (h : reseed s = .ok u t) : Changes (some .reseed) s.machine t.machine := by
  obtain ⟨atEnd, s₁, -, h₁, h⟩ := Execution.Evaluates.bind_ok Eval.atEnd_advances h
  cases atEnd with
  | true =>
    cases h
    exact .of_evaluates h₁ (.reseed _)
  | false =>
    obtain ⟨value, s₂, -, h₂, h⟩ := Execution.Evaluates.bind_ok Eval.sum_advances h
    cases hs : value.truncate? with
    | none => simp [hs] at h
    | some seed =>
      rw [hs] at h
      cases h
      exact .of_evaluates (h₁.trans h₂) (.reseed seed)

theorem perform_changes {k : Option Keyword} (hk : k ≠ some .condition)
    (h : perform k s = .ok u t) : Changes k s.machine t.machine := by
  cases k with
  | none =>
    cases h
    exact .of_evaluates (.refl s) .skip
  | some k =>
    cases k with
    | condition => exact absurd rfl hk
    | assign => exact assign_changes h
    | remark => exact remark_changes h
    | jump => exact jump_changes h
    | call => exact call_changes h
    | resume => exact resume_changes h
    | pause => cases h; exact .of_evaluates (.refl s) .pause
    | finish => cases h; exact .of_evaluates (.refl s) .finish
    | count => exact count_changes h
    | next => exact next_changes h
    | enter => exact enterLoop_changes h
    | close => exact closeLoop_changes h
    | print => exact print_changes h
    | input => exact input_changes h
    | reseed => exact reseed_changes h

/-- A line that is executed to its end has the effect of the statement it selects. -/
theorem execute_changes (h : execute s = .ok u t) :
    ∃ k r, select s.context s.reading = .ok k r ∧ Changes k s.machine t.machine := by
  rw [execute_eq] at h
  obtain ⟨k, s₁, hk, h₁, h⟩ := Execution.Evaluates.bind_ok select_advances h
  obtain ⟨r, hr, -⟩ := evaluate_eq_ok_iff.mp hk
  obtain ⟨draws, hd⟩ := h₁.exists_drawn
  have hc : k ≠ some .condition := by
    rintro rfl
    exact selectWithin_ne_condition hr rfl
  obtain ⟨draws', he⟩ := perform_changes hc h
  refine ⟨k, r, hr, draws + draws', ?_⟩
  rw [hd] at he
  rw [← Generator.drawn_drawn]
  exact he

theorem execute_ok_fixed (h : execute s = .ok u t) : Fixed s.machine t.machine := by
  obtain ⟨k, r, -, draws, he⟩ := execute_changes h
  obtain ⟨program, address, current, running, clock, room⟩ := he.fixed
  exact ⟨program, address, current, running, clock, room⟩

end Statement

end NumberedBasic
