import NumberedBasic.Proofs.Run.Correspondence
import NumberedBasic.Proofs.Session.Operation

/-! # Letter case in sessions

Two sessions that are told the same in different letter case stay alike: they come to the same
values, places and failures, and what they keep and write differs in the case of letters only.
-/

namespace NumberedBasic

namespace Folding

variable (F : Folding)

section Programs

variable (p : Program) (number : Int) (text : Text)

def line (l : Int × Text) : Int × Text :=
  (l.1, F.text l.2)

def program : Program :=
  ⟨p.entries.map F.line, List.pairwise_map.mpr p.increasing⟩

theorem get?_program : (F.program p).get? number = (p.get? number).map F.text := by
  have lookup (entries : List (Int × Text)) :
      (entries.map F.line).lookup number = (entries.lookup number).map F.text := by
    induction entries with
    | nil => rfl
    | cons first rest ih =>
      by_cases same : number = first.1
      · subst same
        rw [List.lookup_cons_self]
        exact List.lookup_cons_self
      · rw [Table.lookup_cons_of_ne same, ← ih]
        exact Table.lookup_cons_of_ne same _ _
  exact lookup p.entries

theorem lineNumbers_program : (F.program p).lineNumbers = p.lineNumbers :=
  List.map_map

theorem store_program :
    F.program (p.store number text) = (F.program p).store number (F.text text) := by
  refine Table.ext_get? fun other => ?_
  rw [get?_program, Program.store, Program.store, Table.get?_insert, Table.get?_insert, trim_text,
    get?_program]
  split <;> rfl

theorem delete_program :
    (F.program p).delete number = (p.delete number).map F.program := by
  have erased : (F.program p).erase number = F.program (p.erase number) := by
    refine Table.ext_get? fun other => ?_
    rw [get?_program, Table.get?_erase, Table.get?_erase, get?_program]
    split <;> rfl
  have contained : (F.program p).contains number = p.contains number := by
    rw [Table.contains, get?_program, Option.isSome_map, Table.contains]
  unfold Program.delete
  rw [contained, erased]
  split <;> rfl

end Programs

end Folding

namespace Correspondence

/-- Nothing but the spelling may differ. -/
def spelled : Correspondence where
  folding := .ascii
  place := Eq
  aim _ := True

theorem eq_of_spelled {stack stack' : ControlStack Nat}
    (h : List.Forall₂ spelled.Frames stack stack') : stack = stack' := by
  induction h with
  | nil => rfl
  | cons frames _ ih =>
    cases frames with
    | subroutine place | repetition place | count place =>
      cases place
      rw [ih]

theorem spelled_refl (stack : ControlStack Nat) : List.Forall₂ spelled.Frames stack stack := by
  refine List.forall₂_same.mpr fun frame _ => ?_
  cases frame with
  | subroutine position => exact .subroutine rfl
  | repetition position => exact .repetition rfl
  | count step limit position => exact .count rfl

end Correspondence

def Text.SameLetters (text text' : Text) : Prop :=
  Folding.ascii.text text = Folding.ascii.text text'

/-- The causes are of one kind and say the same, up to the case of letters. -/
structure Cause.Alike (k k' : Cause) : Prop where
  kind : k.kind = k'.kind
  message : Text.SameLetters k.message.toList k'.message.toList

/-- The failures are at one place, for causes of one kind, and say the same. -/
structure Failure.Alike (failure failure' : Failure) : Prop where
  kind : failure.cause.kind = failure'.cause.kind
  line : failure.line = failure'.line
  column : failure.column = failure'.column
  message : Option.Rel (fun message message' => Text.SameLetters message.toList message'.toList)
    failure.message? failure'.message?

theorem Cause.Alike.of_fold {k k' : Cause} (h : Folding.ascii.cause k = Folding.ascii.cause k') :
    k.Alike k' := by
  constructor
  · rw [← Folding.ascii.kind_cause, h, Folding.ascii.kind_cause]
  · exact (Folding.ascii.message_cause k).symm.trans (h ▸ Folding.ascii.message_cause k')

theorem Failure.Alike.of_fold {failure failure' : Failure}
    (h : Folding.ascii.Failures failure failure') : failure.Alike failure' := by
  obtain ⟨k, line, column⟩ := failure
  obtain ⟨k', _, _⟩ := failure'
  obtain ⟨cause, rfl, rfl⟩ := h
  have same := Cause.Alike.of_fold cause
  refine ⟨same.kind, rfl, rfl, ?_⟩
  have kind : k.kind = k'.kind := same.kind
  have message : Folding.ascii.string (toString k.message) =
      Folding.ascii.string (toString k'.message) := same.message
  simp only [Failure.message?, kind]
  split
  · exact .none
  · refine .some ?_
    change Folding.ascii.string _ = Folding.ascii.string _
    simp only [Folding.string_append, message]

namespace Machine

open Correspondence

/-- The machines differ in the case of letters that they keep or have written, at most. -/
structure Twins (m m' : Machine) : Prop where
  «variables» : m.variables = m'.variables
  stack : m.stack = m'.stack
  position : m.position = m'.position
  address : m.address = m'.address
  current : m.current = m'.current
  halted : m.halted = m'.halted
  running : m.running = m'.running
  generator : m.generator = m'.generator
  room : m.room = m'.room
  program : Folding.ascii.program m.program = Folding.ascii.program m'.program
  input : m.console.input = m'.console.input
  output : Text.SameLetters m.console.output.toList m'.console.output.toList

inductive TwinTurns : Turn → Turn → Prop where
  | going {m m' : Machine} (twins : Twins m m') : TwinTurns (.going m) (.going m')
  | ended {m m' : Machine} {failure failure' : Option Failure} (twins : Twins m m')
      (failures : Option.Rel Failure.Alike failure failure') :
      TwinTurns (.ended m failure) (.ended m' failure')

namespace Twins

variable {m m' : Machine}

theorem untimed (h : Twins m m') : spelled.Untimed m m' where
  «variables» := h.variables
  stack := h.stack ▸ spelled_refl m.stack
  position := h.position
  finish := congrArg List.length h.address
  aim line _ := by
    rw [show ({ m' with clock := m.clock } : Machine).address = m'.address from rfl, ← h.address]
    cases m.address.idxOf? line with
    | none => exact .none
    | some position => exact .some rfl
  halted := h.halted
  running := h.running
  generator := h.generator
  clock := rfl
  room := h.room
  input := h.input
  output := h.output

theorem of_untimed (h : spelled.Untimed m m') (address : m.address = m'.address)
    (current : m.current = m'.current)
    (program : Folding.ascii.program m.program = Folding.ascii.program m'.program) :
    Twins m m' where
  «variables» := h.variables
  stack := eq_of_spelled h.stack
  position := h.position
  address := address
  current := current
  halted := h.halted
  running := h.running
  generator := h.generator
  room := h.room
  program := program
  input := h.input
  output := h.output

theorem rel_get? (h : Twins m m') (number : Int) :
    Option.Rel (fun t t' => Folding.ascii.text t = Folding.ascii.text t')
      (m.program.get? number) (m'.program.get? number) := by
  have same : (Folding.ascii.program m.program).get? number =
      (Folding.ascii.program m'.program).get? number := congrArg (·.get? number) h.program
  rw [Folding.get?_program, Folding.get?_program] at same
  generalize m.program.get? number = a at same ⊢
  generalize m'.program.get? number = b at same ⊢
  cases a with
  | none =>
    cases b with
    | none => exact .none
    | some text' => cases same
  | some text =>
    cases b with
    | none => cases same
    | some text' => exact .some (Option.some.inj same)

theorem execute (h : Twins m m') {text text' : Text} (same : text.SameLetters text')
    (timeless : Statement.Timeless text') :
    Twins (m.execute text).1 (m'.execute text').1 ∧
      Option.Rel Cause.Alike (m.execute text).2 (m'.execute text').2 := by
  have looked : spelled.Untimed m.look m'.look := { h.untimed with clock := rfl }
  have results := looked.results_execute same timeless fun _ _ => trivial
  have related : spelled.Untimed (m.execute text).1 (m'.execute text').1 ∧
      Option.Rel Cause.Alike (m.execute text).2 (m'.execute text').2 := by
    unfold Machine.execute
    generalize Statement.execute (.start m.look text) = r at results ⊢
    generalize Statement.execute (.start m'.look text') = r' at results ⊢
    cases results with
    | ok _ state => exact ⟨state.1, .none⟩
    | error cause state => exact ⟨state.1, .some (.of_fold cause)⟩
  obtain ⟨program, address, current⟩ := m.execute_fixed text
  obtain ⟨program', address', current'⟩ := m'.execute_fixed text'
  refine ⟨.of_untimed related.1 ?_ ?_ ?_, related.2⟩
  · rw [address, address', h.address]
  · rw [current, current', h.current]
  · rw [program, program', h.program]

theorem ingest (h : Twins m m') {text text' : Text} (same : text.SameLetters text')
    (timeless : (Cursor.start text'.trimStart).lineNumber.1 = .ok none →
      Statement.Timeless text'.trimStart) :
    Twins (m.ingest text).1 (m'.ingest text').1 ∧
      Option.Rel Cause.Alike (m.ingest text).2 (m'.ingest text').2 := by
  have start : Folding.ascii.text text.trimStart = Folding.ascii.text text'.trimStart := by
    have folds (t : Text) : Folding.ascii.text t.trimStart = (Folding.ascii.text t).trimStart :=
      (Folding.ascii.dropWhile_text Folding.ascii.isBlank_char t).symm
    rw [folds, folds, same]
  have cursor : Folding.ascii.cursor (.start text.trimStart) =
      Folding.ascii.cursor (.start text'.trimStart) := congrArg (Cursor.mk 0) start
  have found := (Folding.ascii.finds_lineNumber (.start text.trimStart)).symm.trans
    ((congrArg Cursor.lineNumber cursor).trans (Folding.ascii.finds_lineNumber _))
  rw [ingest_eq, ingest_eq]
  generalize (Cursor.start text.trimStart).lineNumber = r at found ⊢
  generalize (Cursor.start text'.trimStart).lineNumber = r' at found timeless ⊢
  obtain ⟨number, c⟩ := r
  obtain ⟨number', c'⟩ := r'
  obtain ⟨value, behind⟩ := Prod.mk.inj found
  obtain rfl : number = number' := value
  cases number with
  | error cause => exact ⟨h, .some ⟨rfl, rfl⟩⟩
  | ok number =>
    cases number with
    | none => exact h.execute start (timeless rfl)
    | some number =>
      have rest : Folding.ascii.text c.rest = Folding.ascii.text c'.rest :=
        congrArg Cursor.rest behind
      refine ⟨{ h with program := ?_ }, .none⟩
      change Folding.ascii.program (m.program.store number c.rest) =
        Folding.ascii.program (m'.program.store number c'.rest)
      rw [Folding.store_program, Folding.store_program, h.program, rest]

theorem next?_eq (h : Twins m m') : m.next? = m'.next? := by
  simp only [next?, h.halted, h.address, h.position]

variable {count : Nat}

theorem step (h : Twins m m') (timeless : ∀ number ∈ m'.next?, ∀ text ∈ m'.program.get? number,
    Statement.Timeless text) : TwinTurns m.step m'.step := by
  have behind : ∀ number ∈ m.next?, m.position + 1 = m'.position + 1 := fun _ _ =>
    congrArg (· + 1) h.position
  have turns := h.untimed.step h.next?_eq behind (fun number _ => h.rel_get? number)
    (h.next?_eq ▸ timeless) fun _ _ => trivial
  obtain ⟨program, address, current⟩ := m.step_fixed
  obtain ⟨program', address', current'⟩ := m'.step_fixed
  have alike (machines : spelled.Untimed m.step.machine m'.step.machine) :
      Twins m.step.machine m'.step.machine := by
    refine .of_untimed machines ?_ ?_ ?_
    · rw [address, address', h.address]
    · rw [current, current', h.current, h.next?_eq]
    · rw [program, program', h.program]
  generalize m.step = t at turns alike ⊢
  generalize m'.step = t' at turns alike ⊢
  cases turns with
  | going machines => exact .going (alike machines)
  | ended machines failures =>
    refine .ended (alike machines) ?_
    cases failures with
    | none => exact .none
    | some same => exact .some (.of_fold same)

/-- Both runs end after the same number of turns and in the same way, or neither of them ends. -/
theorem turns (h : Twins m m') (timeless : ∀ number ∈ m'.course count,
    ∀ text ∈ m'.program.get? number, Statement.Timeless text) :
    Option.Rel (fun r r' => Twins r.1 r'.1 ∧ Option.Rel Failure.Alike r.2 r'.2)
      (turns count m) (turns count m') := by
  induction count generalizing m m' with
  | zero => exact .none
  | succ count ih =>
    have next : ∀ number ∈ m'.next?, number ∈ m'.course (count + 1) := fun number hn =>
      List.mem_append_left _ (Option.mem_toList.mpr hn)
    have turns := h.step fun number hn => timeless number (next number hn)
    generalize turn : m.step = t at turns
    generalize turn' : m'.step = t' at turns
    cases turns with
    | ended twins failures =>
      rw [turns_of_ended turn, turns_of_ended turn']
      exact .some ⟨twins, failures⟩
    | going twins =>
      rw [turns_of_going turn, turns_of_going turn']
      rw [course_of_going turn', ← (going_fixed turn').1] at timeless
      exact ih twins fun number hn => timeless number (List.mem_append_right _ hn)

theorem resumed (h : Twins m m') : Twins m.resumed m'.resumed :=
  { h with halted := rfl, running := rfl }

theorem restarted (h : Twins m m') : Twins m.restarted m'.restarted := by
  obtain ⟨errors, hm⟩ := m.exists_restarted_eq
  obtain ⟨errors', hm'⟩ := m'.exists_restarted_eq
  have numbers : m.program.lineNumbers = m'.program.lineNumbers := by
    rw [← Folding.ascii.lineNumbers_program, h.program, Folding.lineNumbers_program]
  rw [hm, hm']
  exact { h with
    address := numbers, stack := rfl, position := rfl, halted := rfl, running := rfl }

theorem deleteLine (h : Twins m m') (number : Int) :
    (∃ m₁ m₁', m.deleteLine number = .ok m₁ ∧ m'.deleteLine number = .ok m₁' ∧ Twins m₁ m₁') ∨
      ∃ cause, m.deleteLine number = .error cause ∧ m'.deleteLine number = .error cause := by
  have same : (m.program.delete number).map Folding.ascii.program =
      (m'.program.delete number).map Folding.ascii.program := by
    rw [← Folding.delete_program, h.program, Folding.delete_program]
  unfold Machine.deleteLine
  generalize m.program.delete number = r at same ⊢
  generalize m'.program.delete number = r' at same ⊢
  cases r with
  | error cause =>
    cases r' with
    | error cause' =>
      obtain rfl : cause = cause' := Except.error.inj same
      exact .inr ⟨cause, rfl, rfl⟩
    | ok p' => cases same
  | ok p =>
    cases r' with
    | error cause' => cases same
    | ok p' => exact .inl ⟨_, _, rfl, rfl, { h with program := Except.ok.inj same }⟩

end Twins

end Machine

namespace Operation

/-- Both sessions are asked for the same, with texts that differ in the case of letters. -/
inductive Like : Operation → Operation → Prop where
  | ingest {text text' : Text} (same : text.SameLetters text') :
      Like (.ingest text) (.ingest text')
  | execute {text text' : Text} (same : text.SameLetters text') :
      Like (.execute text) (.execute text')
  | clear : Like .clear .clear
  | new : Like .new .new
  | delete (number : Int) : Like (.delete number) (.delete number)
  | run (turns : Nat) : Like (.run turns) (.run turns)
  | resume (turns : Nat) : Like (.resume turns) (.resume turns)

/-- No line that the session executes for the operation reads the clock. -/
inductive Timeless (s : Session) : Operation → Prop where
  | ingest {text : Text} (executed : (Cursor.start text.trimStart).lineNumber.1 = .ok none →
      Statement.Timeless text.trimStart) : Timeless s (.ingest text)
  | execute {text : Text} (executed : Statement.Timeless text) : Timeless s (.execute text)
  | clear : Timeless s .clear
  | new : Timeless s .new
  | delete (number : Int) : Timeless s (.delete number)
  | run {turns : Nat} (executed : ∀ number ∈ (s.allow 3).machine.restarted.course turns,
      ∀ text ∈ s.machine.program.get? number, Statement.Timeless text) : Timeless s (.run turns)
  | resume {turns : Nat} (executed : ∀ number ∈ (s.allow 4).machine.resumed.course turns,
      ∀ text ∈ s.machine.program.get? number, Statement.Timeless text) :
      Timeless s (.resume turns)

end Operation

inductive Answer.Alike : Answer → Answer → Prop where
  | done {failure failure' : Option Cause} (same : Option.Rel Cause.Alike failure failure') :
      Alike (.done failure) (.done failure')
  | ended {failure failure' : Option Failure}
      (same : Option.Rel Failure.Alike failure failure') :
      Alike (.ended failure) (.ended failure')

namespace Session

open Machine

/-- Two sessions are started with one seed and one input, and asked for the same in different
letter case from then on. Time may pass between the operations. -/
inductive Twinned : Session → Session → Prop where
  | fresh (seed : Int) (clock clock' : Clock) {console console' : Console}
      (directory directory' : Directory) (room : Nat) (input : console.input = console'.input)
      (output : console.output = console'.output) :
      Twinned ⟨.fresh seed clock console, directory, room⟩
        ⟨.fresh seed clock' console', directory', room⟩
  | answered {s s' t t' : Session} {operation operation' : Operation} {result result' : Answer}
      (earlier : Twinned s s') (like : operation.Like operation')
      (timeless : operation'.Timeless s') (answer : s.answer operation = some (t, result))
      (answer' : s'.answer operation' = some (t', result')) : Twinned t t'
  | meanwhile {s s' : Session} (earlier : Twinned s s') (clock clock' : Clock) :
      Twinned (s.update fun m => { m with clock }) (s'.update fun m => { m with clock := clock' })

structure Alike (s s' : Session) : Prop where
  twins : s.machine.Twins s'.machine
  room : s.room = s'.room

theorem Alike.allow {s s' : Session} (h : s.Alike s') (calls : Nat) :
    (s.allow calls).machine.Twins (s'.allow calls).machine :=
  { h.twins with room := congrArg (· + calls) h.room }

theorem rel_ended {s s' : Session} (room : s.room = s'.room)
    {ends ends' : Option (Machine × Option Failure)}
    (h : Option.Rel (fun r r' => Twins r.1 r'.1 ∧ Option.Rel Failure.Alike r.2 r'.2) ends ends') :
    Option.Rel (fun r r' => r.1.Alike r'.1 ∧ r.2.Alike r'.2)
      (ends.map fun (m, failure) => ({ s with machine := m }, Answer.ended failure))
      (ends'.map fun (m, failure) => ({ s' with machine := m }, Answer.ended failure)) := by
  cases h with
  | none => exact .none
  | some related => exact .some ⟨⟨related.1, room⟩, .ended related.2⟩

theorem rel_answer {s s' : Session} (h : s.Alike s') {operation operation' : Operation}
    (like : operation.Like operation') (timeless : operation'.Timeless s') :
    Option.Rel (fun r r' => r.1.Alike r'.1 ∧ r.2.Alike r'.2)
      (s.answer operation) (s'.answer operation') := by
  cases like with
  | ingest same =>
    cases timeless with
    | ingest executed =>
      have ingested := (h.allow 3).ingest same executed
      rw [Session.answer, Session.answer]
      exact .some ⟨⟨ingested.1, h.room⟩, .done ingested.2⟩
  | execute same =>
    cases timeless with
    | execute executed =>
      have executed := (h.allow 4).execute same executed
      rw [Session.answer, Session.answer]
      exact .some ⟨⟨executed.1, h.room⟩, .done executed.2⟩
  | clear => exact .some ⟨⟨{ h.twins with «variables» := rfl }, h.room⟩, .done .none⟩
  | new => exact .some ⟨⟨{ h.twins with program := rfl }, h.room⟩, .done .none⟩
  | delete number =>
    rcases h.twins.deleteLine number with
      ⟨m, m', deleted, deleted', twins⟩ | ⟨cause, failed, failed'⟩
    · simp only [Session.answer, deleted, deleted']
      exact .some ⟨⟨twins, h.room⟩, .done .none⟩
    · simp only [Session.answer, failed, failed']
      exact .some ⟨h, .done (.some ⟨rfl, rfl⟩)⟩
  | run turns =>
    cases timeless with
    | run executed =>
      obtain ⟨errors, hm⟩ := (s'.allow 3).machine.exists_restarted_eq
      have program : (s'.allow 3).machine.restarted.program = s'.machine.program := by
        rw [hm]
        rfl
      exact rel_ended h.room ((h.allow 3).restarted.turns (program ▸ executed))
  | resume turns =>
    cases timeless with
    | resume executed => exact rel_ended h.room ((h.allow 4).resumed.turns executed)

theorem Twinned.alike {s s' : Session} (h : Twinned s s') : s.Alike s' := by
  induction h with
  | fresh seed clock clock' directory directory' room input output =>
    have written := congrArg (Folding.string .ascii) output
    exact ⟨⟨rfl, rfl, rfl, rfl, rfl, rfl, rfl, rfl, rfl, rfl, input, written⟩, rfl⟩
  | answered earlier like timeless answer answer' alike =>
    have related := rel_answer alike like timeless
    rw [answer, answer'] at related
    cases related with
    | some related => exact related.1
  | meanwhile earlier clock clock' alike => exact ⟨{ alike.twins with }, alike.room⟩

/-- Letter case never matters: sessions that are told the same in different letter case are alike
at any time, and answer alike to whatever they are told next. -/
theorem letter_case_ignored {s s' : Session} (h : Twinned s s') :
    s.Alike s' ∧ ∀ ⦃operation operation' : Operation⦄,
      operation.Like operation' → operation'.Timeless s' →
        Option.Rel (fun r r' => r.1.Alike r'.1 ∧ r.2.Alike r'.2)
          (s.answer operation) (s'.answer operation') :=
  ⟨h.alike, fun _ _ like timeless => rel_answer h.alike like timeless⟩

/-- What is quoted keeps its letter case, in the output as in the message of a failure. -/
theorem quoted_in_own_case :
    ∃ (s s' t t' : Session) (failure failure' : Failure), Twinned s s' ∧
      s.answer (.run 2) = some (t, .ended (some failure)) ∧
      s'.answer (.run 2) = some (t', .ended (some failure')) ∧
      t.Alike t' ∧ failure.Alike failure' ∧
      t.machine.console.output = "Ab\n" ∧ t'.machine.console.output = "aB\n" ∧
      failure.cause.message = "Statement expected, found: (Cd" ∧
      failure'.cause.message = "Statement expected, found: (cD" := by
  let printing : Text := ['1', '0', 'P', 'R', 'I', 'N', 'T', ' ', '"', 'A', 'b', '"']
  let printing' : Text := ['1', '0', 'p', 'r', 'i', 'n', 't', ' ', '"', 'a', 'B', '"']
  let failing : Text := ['2', '0', '(', 'C', 'd']
  let failing' : Text := ['2', '0', '(', 'c', 'D']
  let s₀ : Session := ⟨.fresh 0 0 (.ofInput []), ⟨[], Table.empty⟩, 0⟩
  let s₁ := (s₀.allow 3).update fun m => (m.ingest printing).1
  let s := (s₁.allow 3).update fun m => (m.ingest failing).1
  let s₀' : Session := ⟨.fresh 0 7 (.ofInput []), ⟨[], Table.empty⟩, 0⟩
  let s₁' := (s₀'.allow 3).update fun m => (m.ingest printing').1
  let s' := (s₁'.allow 3).update fun m => (m.ingest failing').1
  have numbered {text : Text} {n : Nat}
      (h : (Cursor.start text.trimStart).lineNumber.1 = .ok (some n)) (s : Session) :
      (Operation.ingest text).Timeless s :=
    .ingest fun none => by cases h.symm.trans none
  have first : s₀.answer (.ingest printing) = some (s₁, .done _) := rfl
  have first' : s₀'.answer (.ingest printing') = some (s₁', .done _) := rfl
  have second : s₁.answer (.ingest failing) = some (s, .done _) := rfl
  have second' : s₁'.answer (.ingest failing') = some (s', .done _) := rfl
  have like : (Operation.ingest printing).Like (.ingest printing') := .ingest rfl
  have like' : (Operation.ingest failing).Like (.ingest failing') := .ingest rfl
  have twinned : Twinned s s' :=
    .answered (.answered (.fresh 0 0 7 _ _ _ rfl rfl) like (numbered rfl _) first first') like'
      (numbered rfl _) second second'
  have unread : ∀ line ∈ s'.machine.program.entries, ∀ n ≤ line.2.length,
      Cursor.readsClock ⟨n, line.2.drop n⟩ = false := by decide +kernel
  have timeless : (Operation.run 2).Timeless s' := .run fun number _ text stored =>
    .of_start (Cursor.timeless_start (unread (number, text)
      ((Table.get?_eq_some_iff _ _ _).mp stored)))
  have ends : ((s.allow 3).machine.runFor 2).map
      (fun r => (r.1.console.output, r.2.map (·.cause.message))) =
        some ("Ab\n", some "Statement expected, found: (Cd") := by
    decide +kernel
  have ends' : ((s'.allow 3).machine.runFor 2).map
      (fun r => (r.1.console.output, r.2.map (·.cause.message))) =
        some ("aB\n", some "Statement expected, found: (cD") := by
    decide +kernel
  obtain ⟨⟨m, _⟩, run, result⟩ := Option.map_eq_some_iff.mp ends
  obtain ⟨⟨m', _⟩, run', result'⟩ := Option.map_eq_some_iff.mp ends'
  simp only [Prod.mk.injEq, Option.map_eq_some_iff] at result result'
  obtain ⟨output, failure, rfl, message⟩ := result
  obtain ⟨output', failure', rfl, message'⟩ := result'
  have answer : s.answer (.run 2) = some (⟨m, s.directory, s.room⟩, .ended (some failure)) := by
    simp only [Session.answer, run, Option.map_some]
  have answer' : s'.answer (.run 2) =
      some (⟨m', s'.directory, s'.room⟩, .ended (some failure')) := by
    simp only [Session.answer, run', Option.map_some]
  have related := (letter_case_ignored twinned).2 (.run 2) timeless
  rw [answer, answer'] at related
  cases related with
  | some related =>
    obtain ⟨twins, alike⟩ := related
    cases alike with
    | ended same =>
      cases same with
      | some same =>
        exact ⟨s, s', _, _, failure, failure', twinned, answer, answer', twins, same, output,
          output', message, message'⟩

end Session

end NumberedBasic
