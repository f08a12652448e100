import NumberedBasic.Proofs.Statement.Effect

/-! # What failures leave behind

A statement evaluates all that it needs before it changes the machine. A failure
can therefore leave two traces only: the first value of a counted loop, and the
prompt and the line of an input whose fields are no numbers.
-/

namespace NumberedBasic

namespace Exec

variable {α β : Type}

structure Reads (x : Exec α) : Prop where
  of_ok : ∀ ⦃s : Execution⦄ ⦃a : α⦄ ⦃t : Execution⦄, x s = .ok a t → s.Evaluates t
  of_error : ∀ ⦃s : Execution⦄ ⦃cause : Cause⦄ ⦃t : Execution⦄, x s = .error cause t → s.Evaluates t

/-- The execution has only evaluated when it fails. -/
def Atomic (x : Exec α) : Prop :=
  ∀ ⦃s : Execution⦄ ⦃cause : Cause⦄ ⦃t : Execution⦄, x s = .error cause t → s.Evaluates t

theorem Reads.evaluate {e : Eval α} (h : e.Advances) : (evaluate e).Reads where
  of_ok _ _ _ := .of_ok h
  of_error _ _ _ := .of_error h

theorem Reads.machine : machine.Reads where
  of_ok s _ _ h := by cases h; exact .refl s
  of_error _ _ _ h := nomatch h

theorem Reads.ofExcept (x : Except Cause α) : (ofExcept x).Reads where
  of_ok s _ _ h := (ofExcept_ok h).2 ▸ .refl s
  of_error s _ _ h := (ofExcept_error h).2 ▸ .refl s

theorem Reads.bind {x : Exec α} {f : α → Exec β} (hx : x.Reads) (hf : ∀ a, (f a).Reads) :
    (x >>= f).Reads where
  of_ok _ _ _ h := by
    obtain ⟨a, t, ha, h⟩ := bind_eq_ok_iff.mp h
    exact (hx.of_ok ha).trans ((hf a).of_ok h)
  of_error _ _ _ h := by
    rcases bind_eq_error_iff.mp h with h | ⟨a, t, ha, h⟩
    · exact hx.of_error h
    · exact (hx.of_ok ha).trans ((hf a).of_error h)

theorem Reads.pure (a : α) : (pure a : Exec α).Reads :=
  .evaluate (.pure a)

theorem Reads.throw (cause : Cause) : (throw cause : Exec α).Reads :=
  .evaluate (.throw cause)

theorem Reads.atomic {x : Exec α} (h : x.Reads) : x.Atomic :=
  fun _ _ _ hx => h.of_error hx

theorem Reads.atomic_bind {x : Exec α} {f : α → Exec β} (hx : x.Reads) (hf : ∀ a, (f a).Atomic) :
    (x >>= f).Atomic := by
  intro s cause t h
  rcases bind_eq_error_iff.mp h with h | ⟨a, s', ha, h⟩
  · exact hx.of_error h
  · exact (hx.of_ok ha).trans (hf a h)

theorem Atomic.change (f : Machine → Machine) : (change f).Atomic :=
  fun _ _ _ h => nomatch h

theorem Atomic.ite {p : Prop} [Decidable p] {x y : Exec α} (hx : x.Atomic) (hy : y.Atomic) :
    (if p then x else y).Atomic := by
  split
  · exact hx
  · exact hy

end Exec

namespace Statement

open Exec

def StartsLoop (s : Execution) (name : Text) (first : Number) : Prop :=
  ∃ r r', select s.context s.reading = .ok (some .count) r ∧
    loopStart s.context r = .ok (name, first) r'

/-- The line asks for the values of some variables. -/
def AsksFor (s : Execution) (prompt : Text) (names : List Text) : Prop :=
  ∃ r r', select s.context s.reading = .ok (some .input) r ∧
    inputList s.context r = .ok (prompt, names) r'

/-- What is left of a line that has failed, on a machine whose random numbers
have already moved. -/
inductive Residue (s : Execution) (m : Machine) : Cause → Machine → Prop where
  | nothing {cause : Cause} (noLoop : ∀ name first, ¬StartsLoop s name first)
      (noInput : ∀ prompt names, ¬AsksFor s prompt names) :
      Residue s m cause m
  | first {cause : Cause} {name : Text} {first : Number} (starts : StartsLoop s name first) :
      Residue s m cause (m.assign name first)
  | rejected {prompt field line rest : Text} {names : List Text} (asks : AsksFor s prompt names)
      (read : m.console.input.firstLine = (line, rest)) (nonempty : line ≠ [])
      (invalid : fieldValues names (lineFields line) = .error (.invalidNumber field)) :
      Residue s m (.invalidNumber field)
        { m with console :=
          { m.console with input := rest, output := m.console.output ++ String.ofList prompt } }

theorem Residue.fixed {s : Execution} {m m' : Machine} {cause : Cause}
    (h : Residue s m cause m') : Fixed m m' := by
  cases h <;> exact ⟨rfl, rfl, rfl, rfl, rfl, rfl⟩

variable {s t : Execution} {cause : Cause}

theorem target_reads : target.Reads := by
  refine Reads.machine.bind fun m =>
    (Reads.evaluate (Eval.require_advances m.running _)).bind fun _ =>
      (Reads.evaluate (Eval.sumBelow_advances 1)).bind fun number =>
        Reads.machine.bind fun m => ?_
  dsimp only
  split
  · exact .pure _
  · exact .throw _

theorem assign_atomic : assign.Atomic :=
  (Reads.evaluate Eval.name_advances).atomic_bind fun _ =>
    (Reads.evaluate (Eval.demand_advances _)).atomic_bind fun _ =>
      (Reads.evaluate Eval.expression_advances).atomic_bind fun _ => .change _

theorem jump_atomic : jump.Atomic :=
  target_reads.atomic_bind fun _ => .change _

theorem call_atomic : call.Atomic := by
  refine target_reads.atomic_bind fun position s cause t h => ?_
  cases h

theorem resume_atomic : resume.Atomic :=
  Reads.machine.atomic_bind fun _ => (Reads.ofExcept _).atomic_bind fun _ => .change _

theorem next_atomic : next.Atomic := by
  refine (Reads.evaluate Eval.name_advances).atomic_bind fun name =>
    (Reads.evaluate (Eval.valueOf?_advances name)).atomic_bind fun found => ?_
  cases found with
  | none => exact (Reads.throw _).atomic
  | some previous =>
    refine Reads.machine.atomic_bind fun m =>
      (Reads.ofExcept _).atomic_bind fun ⟨step, limit, _⟩ => ?_
    intro s cause t h
    cases hp : isPast (previous.add step) step limit <;> simp [hp] at h <;> cases h

theorem closeLoop_atomic : closeLoop.Atomic :=
  (Reads.evaluate repeats_advances).atomic_bind fun _ => Reads.machine.atomic_bind fun _ =>
    (Reads.ofExcept _).atomic_bind fun _ => .ite (.change _) (.change _)

theorem print_atomic : print.Atomic :=
  (Reads.evaluate printList_advances).atomic_bind fun _ => .change _

theorem reseed_atomic : reseed.Atomic := by
  refine (Reads.evaluate Eval.atEnd_advances).atomic_bind fun _ => .ite (.change _) ?_
  refine (Reads.evaluate Eval.sum_advances).atomic_bind fun value => ?_
  split
  · exact .change _
  · exact (Reads.throw _).atomic

/-- Only the statements that begin a counted loop or an input can fail after a change. -/
theorem perform_atomic {k : Option Keyword} (condition : k ≠ some .condition)
    (count : k ≠ some .count) (input : k ≠ some .input) : (perform k).Atomic := by
  cases k with
  | none => exact (Reads.pure ()).atomic
  | some k =>
    cases k with
    | condition => exact absurd rfl condition
    | count => exact absurd rfl count
    | input => exact absurd rfl input
    | assign => exact assign_atomic
    | remark => exact (Reads.evaluate Eval.skipLine_advances).atomic
    | jump => exact jump_atomic
    | call => exact call_atomic
    | resume => exact resume_atomic
    | pause => exact (Atomic.change _ : pause.Atomic)
    | finish => exact (Atomic.change _ : finish.Atomic)
    | next => exact next_atomic
    | enter =>
      exact (Atomic.change fun m => { m with stack := m.stack.push (.repetition m.position) } :)
    | close => exact closeLoop_atomic
    | print => exact print_atomic
    | reseed => exact reseed_atomic

theorem count_error (h : count s = .error cause t) :
    (s.Evaluates t ∧ ∀ start r, loopStart s.context s.reading ≠ .ok start r) ∨
      ∃ name first r draws, loopStart s.context s.reading = .ok (name, first) r ∧
        t.machine =
          { s.machine with generator := s.machine.generator.drawn draws }.assign name first := by
  rw [count_eq] at h
  rcases bind_eq_error_iff.mp h with h | ⟨⟨name, first⟩, s₁, hs, h⟩
  · obtain ⟨r, hr, -⟩ := evaluate_eq_error_iff.mp h
    exact .inl ⟨.of_error loopStart_advances h, fun _ r' hr' => nomatch hr.symm.trans hr'⟩
  · right
    obtain ⟨r, hr, -⟩ := evaluate_eq_ok_iff.mp hs
    obtain ⟨draws, hd⟩ := (Execution.Evaluates.of_ok loopStart_advances hs).exists_drawn
    -- what follows the assignment of the first value is only read
    have hr' : (evaluate loopRange >>= fun x => push (.count x.2 x.1)).Atomic :=
      (Reads.evaluate loopRange_advances).atomic_bind fun _ => .change _
    rcases bind_eq_error_iff.mp h with h | ⟨_, s₂, ha, h⟩
    · cases h
    · cases ha
      obtain ⟨draws', hd'⟩ := (hr' h).exists_drawn
      refine ⟨name, first, r, draws + draws', hr, ?_⟩
      rw [hd', hd, ← Generator.drawn_drawn]
      rfl

theorem fieldValue_error {field : Text} (h : fieldValue field = .error cause) :
    ∃ field, cause = .invalidNumber field := by
  unfold fieldValue at h
  dsimp only at h
  split at h
  · cases h
  · split at h
    · cases h
    · exact ⟨_, (Except.error.inj h).symm⟩

theorem fieldValues_error {names fields : List Text} (h : fieldValues names fields = .error cause) :
    ∃ field, cause = .invalidNumber field := by
  induction names generalizing fields with
  | nil => cases h
  | cons name names ih =>
    rw [fieldValues] at h
    cases hv : fieldValue (fields.headD []) with
    | error cause' =>
      rw [hv] at h
      cases h
      exact fieldValue_error hv
    | ok value =>
      rw [hv] at h
      cases hr : fieldValues names fields.tail with
      | error cause' =>
        rw [hr] at h
        cases h
        exact ih hr
      | ok values =>
        rw [hr] at h
        cases h

theorem ask_ok {prompt line : Text} (h : ask prompt s = .ok line t) :
    line = s.machine.console.input.firstLine.1 ∧
      t.machine = { s.machine with
        console := { s.machine.console with
          input := s.machine.console.input.firstLine.2,
          output := s.machine.console.output ++ String.ofList prompt } } := by
  cases h
  exact ⟨rfl, rfl⟩

/-- Missing fields count as blank, so a rejected line is not empty. -/
theorem fieldValues_nil (names : List Text) :
    fieldValues names [] = .ok (names.map fun name => (name, 0)) := by
  induction names with
  | nil => rfl
  | cons name names ih =>
    rw [fieldValues, List.tail_nil, ih]
    rfl

theorem input_error (h : input s = .error cause t) :
    (s.Evaluates t ∧ ∀ list r, inputList s.context s.reading ≠ .ok list r) ∨
      ∃ prompt names r draws field line rest,
        inputList s.context s.reading = .ok (prompt, names) r ∧
        s.machine.console.input.firstLine = (line, rest) ∧ line ≠ [] ∧
        cause = .invalidNumber field ∧
        fieldValues names (lineFields line) = .error (.invalidNumber field) ∧
        t.machine = { s.machine with
          console := { s.machine.console with
            input := rest, output := s.machine.console.output ++ String.ofList prompt },
          generator := s.machine.generator.drawn draws } := by
  rcases bind_eq_error_iff.mp h with h | ⟨⟨prompt, names⟩, s₁, hs, h⟩
  · obtain ⟨r, hr, -⟩ := evaluate_eq_error_iff.mp h
    exact .inl ⟨.of_error inputList_advances h, fun _ r' hr' => nomatch hr.symm.trans hr'⟩
  · right
    obtain ⟨r, hr, -⟩ := evaluate_eq_ok_iff.mp hs
    obtain ⟨draws, hd⟩ := (Execution.Evaluates.of_ok inputList_advances hs).exists_drawn
    rcases bind_eq_error_iff.mp h with h | ⟨line, s₂, ha, h⟩
    · cases h
    have console : s₁.machine.console = s.machine.console := by rw [hd]
    obtain ⟨rfl, hm⟩ := ask_ok ha
    rw [console, hd] at hm
    rcases bind_eq_error_iff.mp h with h | ⟨values, s₃, -, h⟩
    · obtain ⟨hf, rfl⟩ := ofExcept_error h
      rw [console] at hf
      obtain ⟨field, rfl⟩ := fieldValues_error hf
      have nonempty : s.machine.console.input.firstLine.1 ≠ [] := by
        intro he
        rw [he] at hf
        cases (fieldValues_nil names).symm.trans hf
      exact ⟨prompt, names, r, draws, field, _, _, hr, rfl, nonempty, rfl, hf, hm⟩
    · cases h

theorem exists_residue_of_evaluates (he : s.Evaluates t)
    (noLoop : ∀ name first, ¬StartsLoop s name first)
    (noInput : ∀ prompt names, ¬AsksFor s prompt names) :
    ∃ draws, Residue s { s.machine with generator := s.machine.generator.drawn draws } cause
      t.machine := by
  obtain ⟨draws, hd⟩ := he.exists_drawn
  exact ⟨draws, hd ▸ .nothing noLoop noInput⟩

/-- A line that fails leaves the machine as it was, up to the random numbers that it has
drawn, the first value of a counted loop, and the prompt and the line of a rejected input. -/
theorem execute_residue (h : execute s = .error cause t) :
    ∃ draws, Residue s { s.machine with generator := s.machine.generator.drawn draws } cause
      t.machine := by
  rw [execute_eq] at h
  rcases bind_eq_error_iff.mp h with h | ⟨k, s₁, hk, h⟩
  · obtain ⟨r, hr, -⟩ := evaluate_eq_error_iff.mp h
    refine exists_residue_of_evaluates (.of_error select_advances h) ?_ ?_
    · rintro name first ⟨r', _, hr', -⟩
      cases hr.symm.trans hr'
    · rintro prompt names ⟨r', _, hr', -⟩
      cases hr.symm.trans hr'
  · have selecting : s.Evaluates s₁ := .of_ok select_advances hk
    obtain ⟨r, hr, rfl⟩ := evaluate_eq_ok_iff.mp hk
    have noLoop (hl : k = some .count → ∀ start r', loopStart s.context r ≠ .ok start r') :
        ∀ name first, ¬StartsLoop s name first := by
      rintro name first ⟨r', r'', hr', hs⟩
      cases hr.symm.trans hr'
      exact hl rfl _ _ hs
    have noInput (hi : k = some .input → ∀ list r', inputList s.context r ≠ .ok list r') :
        ∀ prompt names, ¬AsksFor s prompt names := by
      rintro prompt names ⟨r', r'', hr', hs⟩
      cases hr.symm.trans hr'
      exact hi rfl _ _ hs
    obtain ⟨draws, hd⟩ := selecting.exists_drawn
    by_cases count : k = some .count
    · subst count
      rcases count_error h with ⟨he, none⟩ | ⟨name, first, r', draws', hs, ht⟩
      · exact exists_residue_of_evaluates (selecting.trans he) (noLoop fun _ => none)
          (noInput nofun)
      · refine ⟨draws + draws', ?_⟩
        rw [ht, hd, ← Generator.drawn_drawn]
        exact .first ⟨r, r', hr, hs⟩
    by_cases input : k = some .input
    · subst input
      rcases input_error h with
        ⟨he, none⟩ | ⟨prompt, names, r', draws', field, line, rest, hs, read, some, rfl, hf, ht⟩
      · exact exists_residue_of_evaluates (selecting.trans he) (noLoop nofun)
          (noInput fun _ => none)
      · refine ⟨draws + draws', ?_⟩
        rw [ht, hd, ← Generator.drawn_drawn]
        exact .rejected ⟨r, r', hr, hs⟩ read some hf
    · have condition : k ≠ some .condition := by
        rintro rfl
        exact selectWithin_ne_condition hr rfl
      exact exists_residue_of_evaluates (selecting.trans (perform_atomic condition count input h))
        (noLoop fun hk => absurd hk count) (noInput fun hk => absurd hk input)

theorem execute_error_fixed (h : execute s = .error cause t) : Fixed s.machine t.machine := by
  obtain ⟨draws, hr⟩ := execute_residue h
  obtain ⟨program, address, current, running, clock, room⟩ := hr.fixed
  exact ⟨program, address, current, running, clock, room⟩

/-- Of a machine on which a line fails, only the random numbers, the variable of a counted
loop that had its first value, and the channels of a rejected input are not as before. -/
theorem execute_error_unchanged (h : execute s = .error cause t) :
    (t.machine.program = s.machine.program ∧ t.machine.address = s.machine.address ∧
      t.machine.position = s.machine.position ∧ t.machine.current = s.machine.current ∧
      t.machine.halted = s.machine.halted ∧ t.machine.running = s.machine.running ∧
      t.machine.stack = s.machine.stack ∧ t.machine.clock = s.machine.clock ∧
      t.machine.room = s.machine.room) ∧
    (∃ draws, t.machine.generator = s.machine.generator.drawn draws) ∧
    (t.machine.variables = s.machine.variables ∧ (∀ name first, ¬StartsLoop s name first) ∨
      ∃ name first, StartsLoop s name first ∧
        t.machine.variables = s.machine.variables.insert name first) ∧
    (t.machine.console = s.machine.console ∧ (∀ prompt names, ¬AsksFor s prompt names) ∨
      ∃ prompt names line rest field, AsksFor s prompt names ∧
        s.machine.console.input.firstLine = (line, rest) ∧ line ≠ [] ∧
        cause = .invalidNumber field ∧ fieldValues names (lineFields line) = .error cause ∧
        t.machine.console = { s.machine.console with
          input := rest, output := s.machine.console.output ++ String.ofList prompt }) := by
  obtain ⟨draws, hr⟩ := execute_residue h
  generalize t.machine = m at hr
  have distinct {name first prompt names} (hl : StartsLoop s name first)
      (hi : AsksFor s prompt names) : False := by
    obtain ⟨r, _, hr, -⟩ := hl
    obtain ⟨r', _, hr', -⟩ := hi
    cases hr.symm.trans hr'
  cases hr with
  | nothing noLoop noInput =>
    exact ⟨⟨rfl, rfl, rfl, rfl, rfl, rfl, rfl, rfl, rfl⟩, ⟨draws, rfl⟩, .inl ⟨rfl, noLoop⟩,
      .inl ⟨rfl, noInput⟩⟩
  | first starts =>
    exact ⟨⟨rfl, rfl, rfl, rfl, rfl, rfl, rfl, rfl, rfl⟩, ⟨draws, rfl⟩, .inr ⟨_, _, starts, rfl⟩,
      .inl ⟨rfl, fun _ _ => distinct starts⟩⟩
  | rejected asks read nonempty invalid =>
    exact ⟨⟨rfl, rfl, rfl, rfl, rfl, rfl, rfl, rfl, rfl⟩, ⟨draws, rfl⟩,
      .inl ⟨rfl, fun _ _ starts => distinct starts asks⟩,
      .inr ⟨_, _, _, _, _, asks, read, nonempty, rfl, invalid, rfl⟩⟩

/-- A counted loop without a limit fails after its variable has the first value. -/
theorem unfinished_loop_unchanged :
    let s : Execution := .start (.fresh 0 0 (.ofInput []))
      ['F', 'O', 'R', ' ', 'I', '=', '1', ' ', 'T', 'O']
    ∃ cause t name first, execute s = .error cause t ∧ t.machine.stack = s.machine.stack ∧
      StartsLoop s name first ∧ t.machine.variables = s.machine.variables.insert name first := by
  intro s
  have failed : (match execute s with
      | .ok _ _ => none
      | .error _ t => t.machine.variables.get? ['i']) = some 1 := by
    decide +kernel
  cases h : execute s with
  | ok u t => simp [h] at failed
  | error cause t =>
    obtain ⟨⟨-, -, -, -, -, -, stack, -, -⟩, -, assigned, -⟩ := execute_error_unchanged h
    rcases assigned with ⟨kept, -⟩ | ⟨name, first, starts, assigned⟩
    · rw [h] at failed
      dsimp only at failed
      rw [kept] at failed
      cases failed
    · exact ⟨cause, t, name, first, rfl, stack, starts, assigned⟩

end Statement

end NumberedBasic
