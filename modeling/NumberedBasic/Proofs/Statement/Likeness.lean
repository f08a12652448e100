import NumberedBasic.Proofs.Evaluation.Outlook

/-! # Statements on machines that are alike

Statements look at the variables, the control stack, the position, the table of lines and the
input, and they change nothing else but the output and the random numbers. Machines that agree in
these are alike for every statement, as long as the rest does not show in an evaluation and
there is room enough.
-/

namespace NumberedBasic

structure Machine.Agrees (m m' : Machine) : Prop where
  «variables» : m.variables = m'.variables
  stack : m.stack = m'.stack
  position : m.position = m'.position
  address : m.address = m'.address
  running : m.running = m'.running
  input : m.console.input = m'.console.input

/-- A relation of machines that no statement leads out of, and that hides nothing but the time, the
random numbers and some room from an evaluation. -/
structure Likeness where
  outlook : Outlook
  Like : Machine → Machine → Prop
  alike : ∀ {m m'}, Like m m' → outlook.alike m.clock.now m'.clock.now m.generator m'.generator
  rooms : ∀ {m m'}, Like m m' → outlook.Rooms m.room m'.room
  agrees : ∀ {m m'}, Like m m' → m.Agrees m'
  draw : ∀ {m m'}, Like m m' → ∀ {g g'}, outlook.alike m.clock.now m'.clock.now g g' →
    Like { m with generator := g } { m' with generator := g' }
  assign : ∀ {m m'}, Like m m' → ∀ name value, Like (m.assign name value) (m'.assign name value)
  restack : ∀ {m m'}, Like m m' → ∀ stack, Like { m with stack } { m' with stack }
  goTo : ∀ {m m'}, Like m m' → ∀ position, Like { m with position } { m' with position }
  halt : ∀ {m m'}, Like m m' → Like { m with halted := true } { m' with halted := true }
  write : ∀ {m m'}, Like m m' → ∀ text, Like (m.write text) (m'.write text)
  read : ∀ {m m'}, Like m m' → ∀ input, Like { m with console := { m.console with input } }
    { m' with console := { m'.console with input } }

namespace Likeness

variable (L : Likeness)

/-- Random numbers that are made from the time do not show it. -/
def Timely : Prop :=
  ∀ {m m'}, L.Like m m' →
    L.outlook.alike m.clock.now m'.clock.now (.ofSeed m.clock.now) (.ofSeed m'.clock.now)

structure Executions (s s' : Execution) : Prop where
  machine : L.Like s.machine s'.machine
  cursor : s.cursor = s'.cursor
  rooms : L.outlook.Rooms s.room s'.room
  clear : L.outlook.Clear s.cursor

theorem executions_start {m m' : Machine} (h : L.Like m m') {text : Text}
    (clear : L.outlook.Clear (.start text)) :
    L.Executions (.start m text) (.start m' text) where
  machine := h
  cursor := rfl
  rooms := (L.rooms h).map fun _ _ le => Nat.add_le_add_right le 14
  clear := clear

/-- Both results are the same value or failure on machines that are alike, or there is too little
room for the first one. -/
inductive Results {α : Type} : EStateM.Result Cause Execution α →
    EStateM.Result Cause Execution α → Prop where
  | ok (a : α) {s s' : Execution} (state : L.Executions s s') : Results (.ok a s) (.ok a s')
  | error (cause : Cause) {s s' : Execution} (machine : L.Like s.machine s'.machine)
      (cursor : s.cursor = s'.cursor) (rooms : L.outlook.Rooms s.room s'.room) :
      Results (.error cause s) (.error cause s')
  | tooComplex (roomier : L.outlook.roomier) (s : Execution)
      (result : EStateM.Result Cause Execution α) : Results (.error .tooComplex s) result

end Likeness

namespace Exec

variable {L : Likeness} {α β : Type}

/-- Machines that are alike are alike behind the execution. -/
def Heedless (L : Likeness) (x : Exec α) : Prop :=
  ∀ ⦃s s' : Execution⦄, L.Executions s s' → L.Results (x s) (x s')

namespace Heedless

variable {x : Exec α} {f : α → Exec β}

theorem bind (hx : x.Heedless L) (hf : ∀ a, (f a).Heedless L) : (x >>= f).Heedless L := by
  intro s s' h
  have results := hx h
  generalize hs : x s = result at results
  generalize hs' : x s' = result' at results
  cases results with
  | ok a state =>
    rw [bind_of_ok hs, bind_of_ok hs']
    exact hf a state
  | error cause machine cursor rooms =>
    rw [bind_of_error hs, bind_of_error hs']
    exact .error cause machine cursor rooms
  | tooComplex roomier =>
    rw [bind_of_error hs]
    exact .tooComplex roomier _ _

theorem pure (a : α) : (pure a : Exec α).Heedless L :=
  fun _ _ h => .ok a h

theorem throw (cause : Cause) : (throw cause : Exec α).Heedless L :=
  fun _ _ h => .error cause h.machine h.cursor h.rooms

theorem ofExcept (y : Except Cause α) : (ofExcept y).Heedless L := by
  cases y with
  | ok a => exact .pure a
  | error cause => exact .throw cause

theorem evaluate {e : Eval α} (heedless : e.Heedless L.outlook) (advances : e.Advances) :
    (evaluate e).Heedless L := by
  intro s s' h
  have results : L.outlook.Results s.machine.clock.now s'.machine.clock.now
      (e s.context s.reading) (e ⟨s.machine.variables, s'.machine.clock.now⟩
        ⟨s.cursor, s'.machine.generator, s'.room⟩) :=
    heedless h.clear (L.alike h.machine) h.rooms
  have context : s'.context = ⟨s.machine.variables, s'.machine.clock.now⟩ := by
    rw [(L.agrees h.machine).variables]
    rfl
  have reading : s'.reading = ⟨s.cursor, s'.machine.generator, s'.room⟩ := by
    rw [h.cursor]
    rfl
  rw [← context, ← reading] at results
  generalize hs : e s.context s.reading = result at results
  generalize hs' : e s'.context s'.reading = result' at results
  cases results with
  | ok a c alike rooms =>
    rw [evaluate_of_ok hs, evaluate_of_ok hs']
    have reached : s.cursor.Reaches c := (advances.of_ok hs).cursor
    exact .ok a ⟨L.draw h.machine alike, rfl, rooms, h.clear.of_reaches reached⟩
  | error cause c alike rooms =>
    rw [evaluate_of_error hs, evaluate_of_error hs']
    exact .error cause (L.draw h.machine alike) rfl rooms
  | tooComplex roomier r =>
    rw [evaluate_of_error hs]
    exact .tooComplex roomier _ _

theorem ite {p : Prop} [Decidable p] {y : Exec α} (hx : x.Heedless L) (hy : y.Heedless L) :
    (if p then x else y).Heedless L := by
  split
  · exact hx
  · exact hy

/-- What depends on nothing but what machines that are alike agree in may look at them. -/
theorem machine_bind {f : Machine → Exec α} (same : ∀ {m m'}, L.Like m m' → f m = f m')
    (hf : ∀ m, (f m).Heedless L) : (machine >>= f).Heedless L := by
  intro s s' h
  have results := hf s'.machine h
  rw [← same h.machine] at results
  have right : (machine >>= f) s' = f s.machine s' := congrFun (same h.machine).symm s'
  rw [right]
  exact results

theorem change {f : Machine → Machine} (keeps : ∀ {m m'}, L.Like m m' → L.Like (f m) (f m')) :
    (change f).Heedless L :=
  fun _ _ h => .ok () ⟨keeps h.machine, h.cursor, h.rooms, h.clear⟩

end Heedless

end Exec

namespace Statement

open Exec

variable {L : Likeness}

theorem goTo_heedless (position : Nat) : (goTo position).Heedless L :=
  .change fun h => L.goTo h position

theorem push_heedless (frame : Nat → Frame Nat) : (push frame).Heedless L :=
  .change fun {m m'} h => by
    have same : m'.stack.push (frame m'.position) = m.stack.push (frame m.position) := by
      rw [(L.agrees h).stack, (L.agrees h).position]
    rw [same]
    exact L.restack h _

theorem leave_heedless : (change fun m => { m with stack := m.stack.tail }).Heedless L :=
  .change fun h => by
    rw [(L.agrees h).stack]
    exact L.restack h _

theorem assigning_heedless (name : Text) (value : Number) :
    (change (·.assign name value)).Heedless L :=
  .change fun h => L.assign h name value

theorem assign_heedless : assign.Heedless L :=
  (Heedless.evaluate (.scanStrictly _) Eval.name_advances).bind fun name =>
    (Heedless.evaluate (.scanStrictly _) (Eval.demand_advances _)).bind fun _ =>
      (Heedless.evaluate Eval.expression_heedless Eval.expression_advances).bind fun value =>
        assigning_heedless name value

theorem remark_heedless : (evaluate Eval.skipLine).Heedless L :=
  .evaluate (.scan _) Eval.skipLine_advances

theorem target_heedless : target.Heedless L := by
  refine .machine_bind (fun h => by rw [(L.agrees h).running]) fun m => ?_
  refine (Heedless.evaluate (Eval.require_heedless _ _) (Eval.require_advances m.running _)).bind
    fun _ => ?_
  refine (Heedless.evaluate (Eval.sumBelow_heedless 1) (Eval.sumBelow_advances 1)).bind
    fun number => ?_
  refine .machine_bind (fun h => by rw [(L.agrees h).address]) fun m => ?_
  dsimp only
  split
  · exact .pure _
  · exact .throw _

theorem jump_heedless : jump.Heedless L :=
  target_heedless.bind goTo_heedless

theorem call_heedless : call.Heedless L :=
  target_heedless.bind fun position => (push_heedless _).bind fun _ => goTo_heedless position

theorem resume_heedless : resume.Heedless L :=
  .machine_bind (fun h => by rw [(L.agrees h).stack]) fun _ => (Heedless.ofExcept _).bind
    fun ⟨position, stack⟩ => .change fun h => L.goTo (L.restack h stack) position

theorem pause_heedless : pause.Heedless L :=
  .change L.halt

theorem finish_heedless : finish.Heedless L :=
  .change fun {m m'} h => by
    have same : m'.address.length = m.address.length := by rw [(L.agrees h).address]
    rw [same]
    exact L.goTo h _

theorem count_heedless : count.Heedless L := by
  refine (Heedless.evaluate (.scanStrictly _) Eval.name_advances).bind fun name => ?_
  refine (Heedless.evaluate (.scanStrictly _) (Eval.demand_advances _)).bind fun _ => ?_
  refine (Heedless.evaluate Eval.sum_heedless Eval.sum_advances).bind fun first => ?_
  refine (assigning_heedless name first).bind fun _ => ?_
  refine (Heedless.evaluate (.scan _) (Eval.keyword_advances _)).bind fun found => ?_
  refine (Heedless.evaluate (Eval.require_heedless found _) (Eval.require_advances found _)).bind
    fun _ => ?_
  refine (Heedless.evaluate Eval.sum_heedless Eval.sum_advances).bind fun limit => ?_
  exact (Heedless.evaluate loopStep_heedless loopStep_advances).bind fun step => push_heedless _

theorem next_heedless : next.Heedless L := by
  refine (Heedless.evaluate (.scanStrictly _) Eval.name_advances).bind fun name => ?_
  refine (Heedless.evaluate (Eval.valueOf?_heedless name) (Eval.valueOf?_advances name)).bind
    fun value => ?_
  cases value with
  | none => exact .throw _
  | some previous =>
    refine .machine_bind (fun h => by rw [(L.agrees h).stack]) fun m => (Heedless.ofExcept _).bind
      fun ⟨step, limit, _⟩ => ?_
    exact (assigning_heedless name _).bind fun _ => .ite leave_heedless (goTo_heedless _)

theorem enterLoop_heedless : enterLoop.Heedless L :=
  push_heedless _

theorem closeLoop_heedless : closeLoop.Heedless L := by
  refine (Heedless.evaluate repeats_heedless repeats_advances).bind fun again => ?_
  refine .machine_bind (fun h => by rw [(L.agrees h).stack]) fun m => (Heedless.ofExcept _).bind
    fun position => ?_
  exact .ite (goTo_heedless position) leave_heedless

theorem print_heedless : print.Heedless L :=
  (Heedless.evaluate printList_heedless printList_advances).bind fun text =>
    .change fun h => L.write h text

theorem ask_heedless (prompt : Text) : (ask prompt).Heedless L := by
  intro s s' h
  have asked (t : Execution) (same : t.machine.console.input = s.machine.console.input) :
      let m := t.machine.write (String.ofList prompt)
      let input := (Text.firstLine s.machine.console.input).2
      ask prompt t = .ok (Text.firstLine s.machine.console.input).1
        ⟨{ m with console := { m.console with input } }, t.cursor, t.room⟩ := by
    rw [← same]
    rfl
  rw [asked s rfl, asked s' (L.agrees h.machine).input.symm]
  exact .ok _ ⟨L.read (L.write h.machine _) _, h.cursor, h.rooms, h.clear⟩

theorem input_heedless : input.Heedless L := by
  refine (Heedless.evaluate inputList_heedless inputList_advances).bind fun ⟨prompt, names⟩ => ?_
  refine (ask_heedless prompt).bind fun line => (Heedless.ofExcept _).bind fun values => ?_
  refine .change fun {m m'} h => ?_
  induction values generalizing m m' with
  | nil => exact h
  | cons value values ih => exact ih (L.assign h value.1 value.2)

theorem perform_heedless {k : Option Keyword} (h : k ≠ some .reseed) : (perform k).Heedless L := by
  cases k with
  | none => exact .pure ()
  | some k =>
    cases k with
    | reseed => exact absurd rfl h
    | condition =>
      have same : perform (some .condition) = conditional (pure ()) := rfl
      rw [same, conditional_eq]
      exact (Heedless.evaluate holds_heedless holds_advances).bind fun _ =>
        .ite (.pure ()) remark_heedless
    | assign => exact assign_heedless
    | remark => exact remark_heedless
    | jump => exact jump_heedless
    | call => exact call_heedless
    | resume => exact resume_heedless
    | pause => exact pause_heedless
    | finish => exact finish_heedless
    | count => exact count_heedless
    | next => exact next_heedless
    | enter => exact enterLoop_heedless
    | close => exact closeLoop_heedless
    | print => exact print_heedless
    | input => exact input_heedless

section Lines

variable {s s' : Execution} (h : L.Executions s s')

include h

theorem reseed_results (timely : L.Timely ∨ s.cursor.atEnd.1 = false) :
    L.Results (reseed s) (reseed s') := by
  have ended : (evaluate Eval.atEnd).Heedless L := .evaluate (.scan _) Eval.atEnd_advances
  have results := ended h
  generalize hs : evaluate Eval.atEnd s = result at results
  generalize hs' : evaluate Eval.atEnd s' = result' at results
  unfold reseed
  rw [liftM_eq]
  cases results with
  | error cause machine cursor rooms =>
    rw [bind_of_error hs, bind_of_error hs']
    exact .error cause machine cursor rooms
  | tooComplex roomier =>
    rw [bind_of_error hs]
    exact .tooComplex roomier _ _
  | ok found state =>
    rw [bind_of_ok hs, bind_of_ok hs']
    cases found with
    | true =>
      have timely : L.Timely := by
        refine timely.resolve_right fun other => ?_
        obtain ⟨r, hr, -⟩ := evaluate_eq_ok_iff.mp hs
        cases other.symm.trans (Eval.scan_ok hr).1
      exact .ok ()
        ⟨L.draw state.machine (timely state.machine), state.cursor, state.rooms, state.clear⟩
    | false =>
      refine (Heedless.evaluate Eval.sum_heedless Eval.sum_advances).bind (fun value => ?_) state
      split
      · exact .change fun h => L.draw h (L.outlook.same (L.alike h) _)
      · exact .throw _

/-- A line does the same on machines that are alike, unless it takes new random numbers from a time
that shows. -/
theorem execute_results (timely : L.Timely ∨
    ∀ r, select s.context s.reading = .ok (some .reseed) r → r.cursor.atEnd.1 = false) :
    L.Results (execute s) (execute s') := by
  have selects : (evaluate select).Heedless L := .evaluate select_heedless select_advances
  have results := selects h
  generalize hs : evaluate select s = result at results
  generalize hs' : evaluate select s' = result' at results
  rw [execute_eq]
  cases results with
  | error cause machine cursor rooms =>
    rw [bind_of_error hs, bind_of_error hs']
    exact .error cause machine cursor rooms
  | tooComplex roomier =>
    rw [bind_of_error hs]
    exact .tooComplex roomier _ _
  | ok k state =>
    rw [bind_of_ok hs, bind_of_ok hs']
    by_cases reseeds : k = some .reseed
    · subst reseeds
      refine reseed_results state (timely.imp_right fun other => ?_)
      obtain ⟨r, hr, rfl⟩ := evaluate_eq_ok_iff.mp hs
      exact other r hr
    · exact perform_heedless reseeds state

end Lines

end Statement

end NumberedBasic
