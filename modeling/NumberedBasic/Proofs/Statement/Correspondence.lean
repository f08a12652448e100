import Mathlib.Data.List.Forall2
import NumberedBasic.Proofs.Evaluation.Spelling
import NumberedBasic.Proofs.Statement.Selection

/-! # Corresponding machines

Two machines correspond when they differ in no more than the letter case of what they have written
and the places that their positions count. A statement does the same on both, in whatever letter
case it is spelled, as long as the lines that it jumps to have corresponding places.
-/

namespace NumberedBasic

/-- How far two machines may differ. -/
structure Correspondence where
  folding : Folding
  /-- the positions that stand for the same place -/
  place : Nat → Nat → Prop
  /-- the lines that are found at the same place -/
  aim : Int → Prop

namespace Statement

def named? (context : Context) (r : Reading) : Option Int :=
  match Eval.sumBelow 1 context r with
  | .ok number _ => number.truncate?
  | .error _ _ => none

/-- The line that is named by the jump or the call that is selected at the cursor. -/
def aim? (context : Context) (r : Reading) : Option Int :=
  match select context r with
  | .ok (some .jump) r' | .ok (some .call) r' => named? context r'
  | _ => none

end Statement

namespace Correspondence

variable (C : Correspondence)

inductive Frames : Frame Nat → Frame Nat → Prop where
  | subroutine {p p' : Nat} (place : C.place p p') : Frames (.subroutine p) (.subroutine p')
  | repetition {p p' : Nat} (place : C.place p p') : Frames (.repetition p) (.repetition p')
  | count {step limit : Number} {p p' : Nat} (place : C.place p p') :
      Frames (.count step limit p) (.count step limit p')

structure Machines (m m' : Machine) : Prop where
  «variables» : m.variables = m'.variables
  stack : List.Forall₂ C.Frames m.stack m'.stack
  position : C.place m.position m'.position
  finish : C.place m.address.length m'.address.length
  aim : ∀ line, C.aim line → Option.Rel C.place (m.address.idxOf? line) (m'.address.idxOf? line)
  halted : m.halted = m'.halted
  running : m.running = m'.running
  generator : m.generator = m'.generator
  clock : m.clock = m'.clock
  room : m.room = m'.room
  input : m.console.input = m'.console.input
  output : C.folding.string m.console.output = C.folding.string m'.console.output

structure Executions (s s' : Execution) : Prop where
  machine : C.Machines s.machine s'.machine
  cursor : C.folding.cursor s.cursor = C.folding.cursor s'.cursor
  room : s.room = s'.room

variable {C}

theorem Machines.assign {m m' : Machine} (h : C.Machines m m') (name : Text) (value : Number) :
    C.Machines (m.assign name value) (m'.assign name value) :=
  { h with «variables» := congrArg (·.insert name value) h.variables }

theorem Machines.reseed {m m' : Machine} (h : C.Machines m m') {g g' : Generator} (same : g = g') :
    C.Machines { m with generator := g } { m' with generator := g' } :=
  { h with generator := same }

theorem Frames.kind_eq {frame frame' : Frame Nat} (h : C.Frames frame frame') :
    frame.kind = frame'.kind := by
  cases h <;> rfl

namespace Frames

theorem subroutine? {frame frame' : Frame Nat} (h : C.Frames frame frame') :
    Option.Rel C.place frame.subroutine? frame'.subroutine? := by
  cases h with
  | subroutine place => exact .some place
  | repetition => exact .none
  | count => exact .none

theorem repetition? {frame frame' : Frame Nat} (h : C.Frames frame frame') :
    Option.Rel C.place frame.repetition? frame'.repetition? := by
  cases h with
  | subroutine => exact .none
  | repetition place => exact .some place
  | count => exact .none

theorem count? {frame frame' : Frame Nat} (h : C.Frames frame frame') :
    Option.Rel (fun a b => a.1 = b.1 ∧ a.2.1 = b.2.1 ∧ C.place a.2.2 b.2.2) frame.count?
      frame'.count? := by
  cases h with
  | subroutine => exact .none
  | repetition => exact .none
  | count place => exact .some ⟨rfl, rfl, place⟩

theorem tail {stack stack' : ControlStack Nat} (h : List.Forall₂ C.Frames stack stack') :
    List.Forall₂ C.Frames stack.tail stack'.tail := by
  cases h with
  | nil => exact .nil
  | cons _ rest => exact rest

end Frames

namespace Executions

variable {s s' : Execution}

theorem context (h : C.Executions s s') : s.context = s'.context := by
  unfold Execution.context
  rw [Machine.context, h.machine.variables, h.machine.clock, Machine.context]

theorem readings (h : C.Executions s s') : C.folding.Readings s.reading s'.reading :=
  ⟨h.cursor, h.machine.generator, h.room⟩

theorem moved (h : C.Executions s s') {r r' : Reading} (hr : C.folding.Readings r r') :
    C.Executions (s.moved r) (s'.moved r') :=
  ⟨{ h.machine with generator := hr.generator }, hr.cursor, hr.room⟩

end Executions

end Correspondence

namespace Exec

variable {C : Correspondence} {α β γ δ : Type}

/-- The executions come to related results on corresponding machines. -/
abbrev Follows (C : Correspondence) (R : α → β → Prop) (x : Exec α) (y : Exec β) : Prop :=
  C.folding.Meets C.Executions R x y

open Folding

theorem results_evaluate {R : α → β → Prop} {e : Eval α} {e' : Eval β} {s s' : Execution}
    (he : Eval.Follows C.folding R e e') (h : C.Executions s s') :
    C.folding.Results C.Executions R (evaluate e s) (evaluate e' s') := by
  have results := he s.context h.readings
  cases hr : e s.context s.reading with
  | ok a r =>
    rw [hr, h.context] at results
    rw [evaluate_of_ok hr]
    cases hr' : e' s'.context s'.reading with
    | ok b r' =>
      rw [hr'] at results
      rw [evaluate_of_ok hr']
      cases results with
      | ok value state => exact .ok value (h.moved state)
    | error k r' =>
      rw [hr'] at results
      cases results
  | error k r =>
    rw [hr, h.context] at results
    rw [evaluate_of_error hr]
    cases hr' : e' s'.context s'.reading with
    | ok b r' =>
      rw [hr'] at results
      cases results
    | error k' r' =>
      rw [hr'] at results
      rw [evaluate_of_error hr']
      cases results with
      | error cause state => exact .error cause (h.moved state)

theorem follows_evaluate {R : α → β → Prop} {e : Eval α} {e' : Eval β}
    (he : Eval.Follows C.folding R e e') : Follows C R (evaluate e) (evaluate e') :=
  fun _ _ h => results_evaluate he h

theorem follows_change {f g : Machine → Machine}
    (h : ∀ ⦃m m'⦄, C.Machines m m' → C.Machines (f m) (g m')) :
    Follows C Eq (change f) (change g) :=
  fun _ _ hs => .ok rfl ⟨h hs.machine, hs.cursor, hs.room⟩

theorem follows_machine : Follows C C.Machines machine machine :=
  fun _ _ h => .ok h.machine h

theorem follows_top {select : Frame Nat → Option α} {R : α → α → Prop}
    (selects : ∀ ⦃frame frame'⦄, C.Frames frame frame' →
      Option.Rel R (select frame) (select frame'))
    {stack stack' : ControlStack Nat} (h : List.Forall₂ C.Frames stack stack')
    (complaint : String) :
    Follows C R (Exec.ofExcept (stack.top select complaint))
      (Exec.ofExcept (stack'.top select complaint)) := by
  cases h with
  | nil => exact .throw rfl
  | @cons frame frame' others others' related rest =>
    have found := selects related
    unfold ControlStack.top
    dsimp only
    generalize select frame = a at found ⊢
    generalize select frame' = b at found ⊢
    cases found with
    | some value => exact .pure value
    | none => exact .throw (by rw [related.kind_eq])

theorem follows_pop {stack stack' : ControlStack Nat} (h : List.Forall₂ C.Frames stack stack')
    {complaint : String} :
    Follows C (fun a b => C.place a.1 b.1 ∧ List.Forall₂ C.Frames a.2 b.2)
      (Exec.ofExcept (stack.pop Frame.subroutine? complaint))
      (Exec.ofExcept (stack'.pop Frame.subroutine? complaint)) := by
  cases h with
  | nil => exact .throw rfl
  | cons related rest =>
    cases related with
    | subroutine place => exact .pure ⟨place, rest⟩
    | repetition => exact .throw rfl
    | count => exact .throw rfl

end Exec

namespace Statement

open Correspondence Exec Folding

variable {C : Correspondence} {F : Folding}

section Evaluations

theorem uniform_keyword : keyword.Uniform F := by
  have skips : F.Finds id fun c : Cursor => ((), c.skipBlanks) := fun c =>
    Prod.ext rfl (F.skipBlanks_cursor c)
  refine .scan_bind skips fun _ => .scan_bind F.finds_word fun word => ?_
  cases word with
  | none => exact .failNear fun rest => by simp only [Folding.cause, F.text_text]
  | some word =>
    dsimp only
    split
    · exact .pure rfl
    · exact .throw _

theorem uniform_skipLine : Eval.skipLine.Uniform F :=
  .scan fun c => Prod.ext rfl (F.finish_cursor c)

theorem uniform_holds : holds.Uniform F :=
  Eval.uniform_expression.bind_same fun _ => .scan_bind (F.finds_keyword _) fun found =>
    (Eval.uniform_require found fun _ => rfl).bind_same fun _ =>
      Eval.uniform_descend.bind_same fun _ => .pure rfl

theorem uniform_selectWithin (depth : Nat) : (selectWithin depth).Uniform F := by
  induction depth with
  | zero => exact .throw _
  | succ depth ih =>
    refine uniform_keyword.bind_same fun k => ?_
    split
    · exact uniform_holds.bind_same fun _ =>
        .ite ih (uniform_skipLine.bind_same fun _ => .pure rfl)
    · exact .pure rfl

theorem uniform_select : select.Uniform F :=
  Eval.uniform_byRoom fun _ => uniform_selectWithin _

theorem uniform_loopStep : loopStep.Uniform F := by
  refine .scan_bind (F.finds_keyword _) fun _ => .ite ?_ (.pure rfl)
  exact Eval.uniform_sum.bind_same fun _ => .ite (.throw _) (.pure rfl)

theorem uniform_repeats : repeats.Uniform F := by
  have condition (f : Number → Bool) : (do return f (← Eval.expression)).Uniform F :=
    Eval.uniform_expression.bind_same fun _ => .pure rfl
  refine .scan_bind (F.finds_keyword _) fun _ => .ite (condition _) ?_
  exact .scan_bind (F.finds_keyword _) fun _ => .ite (condition _)
    (.failNear fun rest => by simp only [Folding.cause, F.text_text])

def Written (F : Folding) (a b : String) : Prop :=
  F.string a = F.string b

theorem Written.append {a b a' b' : String} (h : Written F a b) (h' : Written F a' b') :
    Written F (a ++ a') (b ++ b') := by
  unfold Written at *
  rw [F.string_append, F.string_append, h, h']

theorem follows_printable : Eval.Follows F (Written F) printable printable := by
  refine (Eval.Follows.scanStrictly F.finds_string).bind fun content content' same => ?_
  cases content with
  | some content =>
    cases content' with
    | some content' =>
      refine .pure ?_
      rw [Written, F.string_ofList, F.string_ofList]
      exact Option.some.inj same
    | none => cases same
  | none =>
    cases content' with
    | some content' => cases same
    | none => exact (Eval.uniform_expressionBelow 1).bind_same fun _ => .pure rfl

theorem follows_printFurther (items : Nat) {text text' : String} (h : Written F text text')
    (isOpen : Bool) :
    Eval.Follows F (fun a b => Written F a.1 b.1 ∧ a.2 = b.2) (printFurther items text isOpen)
      (printFurther items text' isOpen) := by
  induction items generalizing text text' isOpen with
  | zero => exact .pure ⟨h, rfl⟩
  | succ items ih =>
    refine .scan_bind (F.finds_anyOf (by decide +kernel)) fun separator => ?_
    cases separator with
    | none => exact .pure ⟨h, rfl⟩
    | some separator =>
      have others (isOpen : Bool) :
          Eval.Follows F (fun a b => Written F a.1 b.1 ∧ a.2 = b.2)
            (do printFurther items (text ++ (← printable)) isOpen)
            (do printFurther items (text' ++ (← printable)) isOpen) :=
        follows_printable.bind fun _ _ same => ih (h.append same) isOpen
      exact .ite (.scan_bind F.finds_atEnd fun _ => .ite (.pure ⟨h, rfl⟩) (others true))
        (others isOpen)

theorem follows_printList : Eval.Follows F (Written F) printList printList := by
  refine .scan_bind F.finds_atEnd fun _ => .ite (.pure rfl) ?_
  refine follows_printable.bind fun first first' same => ?_
  refine Eval.Follows.remaining.bind_same fun items => ?_
  refine (follows_printFurther items same false).bind ?_
  rintro ⟨text, isOpen⟩ ⟨text', isOpen'⟩ ⟨same, rfl⟩
  cases isOpen with
  | true => exact .pure same
  | false => exact .pure (same.append rfl)

theorem follows_inputList :
    Eval.Follows F (fun a b => F.text a.1 = F.text b.1 ∧ a.2 = b.2) inputList inputList := by
  have names : (Eval.separatedBy [','] Eval.name).Uniform F :=
    Eval.uniform_separatedBy (by decide +kernel) Eval.uniform_name
  refine (Eval.Follows.scanStrictly F.finds_string).bind fun prompt prompt' same => ?_
  cases prompt with
  | some prompt =>
    cases prompt' with
    | some prompt' =>
      refine .scan_bind (F.finds_literal (by decide +kernel)) fun found => ?_
      refine (Eval.uniform_require found fun rest => by
        simp only [Folding.cause, F.text_text]).bind_same fun _ => ?_
      exact names.bind_same fun _ => .pure ⟨Option.some.inj same, rfl⟩
    | none => cases same
  | none =>
    cases prompt' with
    | some prompt' => cases same
    | none => exact names.bind_same fun _ => .pure ⟨rfl, rfl⟩

end Evaluations

section Bodies

theorem follows_goTo {p p' : Nat} (h : C.place p p') : Exec.Follows C Eq (goTo p) (goTo p') :=
  follows_change fun _ _ hm => { hm with position := h }

theorem follows_push {frame : Nat → Frame Nat}
    (h : ∀ ⦃p p'⦄, C.place p p' → C.Frames (frame p) (frame p')) :
    Exec.Follows C Eq (push frame) (push frame) :=
  follows_change fun _ _ hm => { hm with stack := .cons (h hm.position) hm.stack }

theorem follows_leave : Exec.Follows C Eq
    (change fun m => { m with stack := m.stack.tail })
    (change fun m => { m with stack := m.stack.tail }) :=
  follows_change fun _ _ h => { h with stack := Frames.tail h.stack }

theorem follows_assigning (name : Text) (value : Number) :
    Exec.Follows C Eq (change (·.assign name value)) (change (·.assign name value)) :=
  follows_change fun _ _ h => h.assign name value

theorem follows_assign : Exec.Follows C Eq assign assign :=
  (follows_evaluate Eval.uniform_name).bind_same fun name =>
    (follows_evaluate (Eval.uniform_demand (by decide +kernel))).bind_same fun _ =>
      (follows_evaluate Eval.uniform_expression).bind_same fun value => follows_assigning name value

theorem follows_resume : Exec.Follows C Eq resume resume := by
  refine follows_machine.bind fun m m' hm => ?_
  refine (follows_pop hm.stack).bind ?_
  rintro ⟨position, stack⟩ ⟨position', stack'⟩ ⟨place, frames⟩
  exact follows_change fun _ _ h => { h with stack := frames, position := place }

theorem follows_pause : Exec.Follows C Eq pause pause :=
  follows_change fun _ _ h => { h with halted := rfl }

theorem follows_finish : Exec.Follows C Eq finish finish :=
  follows_change fun _ _ h => { h with position := h.finish }

theorem follows_count : Exec.Follows C Eq count count := by
  refine (follows_evaluate Eval.uniform_name).bind_same fun name => ?_
  refine (follows_evaluate (Eval.uniform_demand (by decide +kernel))).bind_same fun _ => ?_
  refine (follows_evaluate Eval.uniform_sum).bind_same fun first => ?_
  refine (follows_assigning name first).bind_same fun _ => ?_
  refine (follows_evaluate (.scan (C.folding.finds_keyword _))).bind_same fun found => ?_
  refine (follows_evaluate (Eval.uniform_require found fun rest => by
    simp only [Folding.cause, C.folding.text_text])).bind_same fun _ => ?_
  refine (follows_evaluate Eval.uniform_sum).bind_same fun limit => ?_
  exact (follows_evaluate uniform_loopStep).bind_same fun step =>
    follows_push fun _ _ place => .count place

theorem follows_next : Exec.Follows C Eq next next := by
  refine (follows_evaluate Eval.uniform_name).bind_same fun name => ?_
  refine (follows_evaluate (Eval.uniform_valueOf? name)).bind_same fun value => ?_
  cases value with
  | none => exact .throw rfl
  | some previous =>
    refine follows_machine.bind fun m m' hm => ?_
    refine (follows_top (fun _ _ h => h.count?) hm.stack _).bind ?_
    rintro ⟨step, limit, position⟩ ⟨_, _, position'⟩ ⟨rfl, rfl, place⟩
    exact (follows_assigning name _).bind_same fun _ => .ite follows_leave (follows_goTo place)

theorem follows_enterLoop : Exec.Follows C Eq enterLoop enterLoop :=
  follows_push fun _ _ place => .repetition place

theorem follows_closeLoop : Exec.Follows C Eq closeLoop closeLoop := by
  refine (follows_evaluate uniform_repeats).bind_same fun again => ?_
  refine follows_machine.bind fun m m' hm => ?_
  exact (follows_top (fun _ _ h => h.repetition?) hm.stack _).bind fun position position' place =>
    .ite (follows_goTo place) follows_leave

theorem follows_write {text text' : String} (h : Written C.folding text text') :
    Exec.Follows C Eq (change (·.write text)) (change (·.write text')) :=
  follows_change fun _ _ hm => { hm with output := Written.append hm.output h }

theorem follows_print : Exec.Follows C Eq print print :=
  (follows_evaluate follows_printList).bind fun _ _ same => follows_write same

theorem follows_ask {prompt prompt' : Text} (h : C.folding.text prompt = C.folding.text prompt') :
    Exec.Follows C Eq (ask prompt) (ask prompt') := by
  intro s s' hs
  have output : Written C.folding (String.ofList prompt) (String.ofList prompt') := by
    rw [Written, C.folding.string_ofList, C.folding.string_ofList, h]
  have lines : (s.machine.console.write (String.ofList prompt)).readLine.1 =
      (s'.machine.console.write (String.ofList prompt')).readLine.1 :=
    congrArg (fun input => (Text.firstLine input).1) hs.machine.input
  have behind : (s.machine.console.write (String.ofList prompt)).readLine.2.input =
      (s'.machine.console.write (String.ofList prompt')).readLine.2.input :=
    congrArg (fun input => (Text.firstLine input).2) hs.machine.input
  exact .ok lines ⟨{ hs.machine with
    input := behind, output := Written.append hs.machine.output output }, hs.cursor, hs.room⟩

theorem follows_input : Exec.Follows C Eq input input := by
  refine (follows_evaluate follows_inputList).bind ?_
  rintro ⟨prompt, names⟩ ⟨prompt', _⟩ ⟨same, rfl⟩
  refine (follows_ask same).bind_same fun line => ?_
  have read : Exec.Follows C Eq (Exec.ofExcept (fieldValues names (lineFields line)))
      (Exec.ofExcept (fieldValues names (lineFields line))) := by
    cases fieldValues names (lineFields line) with
    | ok values => exact .pure rfl
    | error k => exact .throw rfl
  refine read.bind_same fun values => follows_change fun m m' h => ?_
  induction values generalizing m m' with
  | nil => exact h
  | cons value values ih => exact ih _ _ (h.assign value.1 value.2)

theorem follows_reseed : Exec.Follows C Eq reseed reseed := by
  refine (follows_evaluate (.scan C.folding.finds_atEnd)).bind_same fun ended => .ite ?_ ?_
  · exact follows_change fun _ _ h => h.reseed (by rw [h.clock])
  · refine (follows_evaluate Eval.uniform_sum).bind_same fun value => ?_
    split
    · exact follows_change fun _ _ h => h.reseed rfl
    · exact .throw rfl

end Bodies

section Jumps

variable {s s' : Execution}

theorem named?_of_sumBelow {t : Execution} {number : Number}
    (h : evaluate (Eval.sumBelow 1) s = .ok number t) :
    named? s.context s.reading = number.truncate? := by
  obtain ⟨r, hr, -⟩ := evaluate_eq_ok_iff.mp h
  simp only [named?, hr]

theorem rel_idxOf? {m m' : Machine} {line? : Option Int} (h : C.Machines m m')
    (aims : ∀ line ∈ line?, C.aim line) :
    Option.Rel C.place (line?.bind fun line => m.address.idxOf? line)
      (line?.bind fun line => m'.address.idxOf? line) := by
  cases line? with
  | none => exact .none
  | some line => exact h.aim line (aims line rfl)

theorem results_target (h : C.Executions s s')
    (aims : ∀ line ∈ named? s.context s.reading, C.aim line) :
    C.folding.Results C.Executions C.place (target s) (target s') := by
  refine (follows_machine h).bind fun m m' t t' ht hm h' => ?_
  obtain ⟨rfl, rfl⟩ : s.machine = m ∧ s = t := by simpa using ht
  have required : (Eval.require s.machine.running fun _ => .notRunning).Uniform C.folding :=
    Eval.uniform_require _ fun _ => rfl
  rw [← hm.running]
  refine (results_evaluate required h').bind fun _ _ u u' hu _ h' => ?_
  obtain ⟨r, hr, rfl⟩ := evaluate_eq_ok_iff.mp hu
  obtain ⟨-, rfl⟩ := Eval.require_eq_ok_iff.mp hr
  refine (results_evaluate (Eval.uniform_sumBelow 1) h').bind fun number _ v v' hv same h' => ?_
  subst same
  rw [Execution.moved_reading] at hv
  rw [named?_of_sumBelow hv] at aims
  refine (follows_machine h').bind fun w w' t t' _ hw h' => ?_
  have found := rel_idxOf? hw aims
  generalize (number.truncate?.bind fun line => w.address.idxOf? line) = a at found ⊢
  generalize (number.truncate?.bind fun line => w'.address.idxOf? line) = b at found ⊢
  cases found with
  | some place => exact .ok place h'
  | none => exact .error rfl h'

variable (h : C.Executions s s') (aims : ∀ line ∈ named? s.context s.reading, C.aim line)

include h aims

theorem results_jump : C.folding.Results C.Executions Eq (jump s) (jump s') :=
  (results_target h aims).bind fun _ _ _ _ _ place h' => follows_goTo place h'

theorem results_call : C.folding.Results C.Executions Eq (call s) (call s') := by
  refine (results_target h aims).bind fun _ _ _ _ _ place h' => ?_
  have pushed : Exec.Follows C Eq (push .subroutine) (push .subroutine) :=
    follows_push fun _ _ place => .subroutine place
  exact (pushed.bind_same fun _ => follows_goTo place) h'

end Jumps

section Lines

theorem follows_perform {k : Option Keyword} (stays : k ≠ some .jump ∧ k ≠ some .call) :
    Exec.Follows C Eq (perform k) (perform k) := by
  cases k with
  | none => exact .pure rfl
  | some k =>
    cases k with
    | jump => exact absurd rfl stays.1
    | call => exact absurd rfl stays.2
    | condition =>
      have same : perform (some .condition) = conditional (pure ()) := rfl
      rw [same, conditional_eq]
      exact (follows_evaluate uniform_holds).bind_same fun _ =>
        .ite (.pure rfl) (follows_evaluate uniform_skipLine)
    | assign => exact follows_assign
    | remark => exact follows_evaluate uniform_skipLine
    | resume => exact follows_resume
    | pause => exact follows_pause
    | finish => exact follows_finish
    | count => exact follows_count
    | next => exact follows_next
    | enter => exact follows_enterLoop
    | close => exact follows_closeLoop
    | print => exact follows_print
    | input => exact follows_input
    | reseed => exact follows_reseed

/-- A line does the same on corresponding machines, unless it jumps to a line whose places do
not correspond. -/
theorem results_execute {s s' : Execution} (h : C.Executions s s')
    (aims : ∀ line ∈ aim? s.context s.reading, C.aim line) :
    C.folding.Results C.Executions Eq (execute s) (execute s') := by
  rw [execute_eq]
  refine (results_evaluate uniform_select h).bind fun k _ t t' ht same h' => ?_
  subst same
  obtain ⟨r, hr, rfl⟩ := evaluate_eq_ok_iff.mp ht
  by_cases jumps : k = some .jump
  · subst jumps
    simp only [aim?, hr] at aims
    exact results_jump h' aims
  · by_cases calls : k = some .call
    · subst calls
      simp only [aim?, hr] at aims
      exact results_call h' aims
    · exact follows_perform ⟨jumps, calls⟩ h'

end Lines

end Statement

end NumberedBasic
