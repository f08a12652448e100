import NumberedBasic.Proofs.Block.Line
import NumberedBasic.Proofs.Run.Room
import NumberedBasic.Proofs.Statement.Backdrop

/-! # Pauses

A run that is continued after every pause does what the run without these pauses does, line
by line. A pause leaves the run between two lines, and all that a run goes on from is kept, apart
from the room that is left where it is continued.
-/

namespace NumberedBasic

def Keyword.begins (k : Keyword) (text : Text) : Bool :=
  (Cursor.start text).skipBlanks.word.1 == some k.spelling

theorem Keyword.opens_of_begins {k : Keyword} {text : Text} (h : k.begins text = true) :
    Block.Opens k text := by
  have spelled : ofWord? k.spelling = some k := by cases k <;> rfl
  exact .of_word (eq_of_beq h) spelled

namespace Program

def replaced (p p' : Program) (number : Int) : Bool :=
  p'.get? number != p.get? number

def pausesAt (p : Program) (number : Int) : Bool :=
  (p.get? number).any Keyword.pause.begins

/-- The programs have the same lines, except that pauses stand for some remarks. -/
structure Pausing (p p' : Program) : Prop where
  numbers : p'.lineNumbers = p.lineNumbers
  line : ∀ ⦃number : Int⦄, p.replaced p' number = true →
    ∃ text text', p.get? number = some text ∧ Keyword.remark.begins text = true ∧
      p'.get? number = some text' ∧ Keyword.pause.begins text' = true

end Program

namespace Block.Opens

open Exec Statement

variable {k : Keyword} {text : Text} {m : Machine}

theorem execute_remark (h : Opens .remark text) :
    ∃ c, execute (.start m text) = .ok () ⟨m, c, m.room + 14⟩ := by
  obtain ⟨c, hc⟩ := h m.context m.generator (m.room + 14)
  refine ⟨c.finish, ?_⟩
  rw [h.execute_eq nofun, Execution.start, bind_of_ok (evaluate_still hc)]
  rfl

theorem execute_pause (h : Opens .pause text) :
    ∃ c, execute (.start m text) = .ok () ⟨{ m with halted := true }, c, m.room + 14⟩ := by
  obtain ⟨c, hc⟩ := h m.context m.generator (m.room + 14)
  refine ⟨c, ?_⟩
  rw [h.execute_eq nofun, Execution.start, bind_of_ok (evaluate_still hc)]
  rfl

end Block.Opens

namespace Machine

/-- The numbers of the lines that the turns of a run take up. -/
def course : Nat → Machine → List Int
  | 0, _ => []
  | count + 1, m => m.next?.toList ++
    match m.step with
    | .going m' => course count m'
    | .ended _ _ => []

/-- What there is when a halted run is continued: the time, and the room for statements. -/
structure Break where
  clock : Clock
  room : Nat

/-- Ready to go on after a break. -/
def resumedAfter (m : Machine) (k : Break) : Machine :=
  { m with clock := k.clock, room := k.room }.resumed

/-- A run ends, after it was continued after some breaks. Before each of them it was halted. -/
inductive Continued : List Break → Machine → List Int → Machine → Option Failure → Prop where
  | ended {m final : Machine} {failure : Option Failure} {count : Nat}
      (run : turns count m = some (final, failure)) :
      Continued [] m (m.course count) final failure
  | halted {m stop final : Machine} {failure : Option Failure} {count : Nat} {k : Break}
      {breaks : List Break} {lines : List Int} (run : turns count m = some (stop, none))
      (halted : stop.halted = true)
      (later : Continued breaks (stop.resumedAfter k) lines final failure) :
      Continued (k :: breaks) m (m.course count ++ lines) final failure

section Backdrops

variable (m : Machine) (b : Backdrop)

theorem taken_against (number : Int) : ∃ errors, (m.against b).taken number =
    (m.taken number).against { b with current := some number, clock := b.clock.tick, errors } := by
  obtain ⟨errors, ht⟩ := (m.against b).exists_taken_eq number
  obtain ⟨errors', ht'⟩ := m.exists_taken_eq number
  exact ⟨errors, by rw [ht, ht']; rfl⟩

theorem finishRun_against :
    ∃ errors, (m.against b).finishRun = m.finishRun.against { b with errors } := by
  obtain ⟨errors, hf⟩ := (m.against b).exists_finishRun_eq
  obtain ⟨errors', hf'⟩ := m.exists_finishRun_eq
  exact ⟨errors, by rw [hf, hf']; rfl⟩

theorem abortRun_against (cause : Cause) (line : Int) (column : Nat) :
    ∃ final errors, m.abortRun cause line column = .ended final (some ⟨cause, line, column⟩) ∧
      (m.against b).abortRun cause line column =
        .ended (final.against { b with errors }) (some ⟨cause, line, column⟩) := by
  obtain ⟨errors, ha⟩ := (m.against b).exists_abortRun_eq cause line column
  obtain ⟨errors', ha'⟩ := m.exists_abortRun_eq cause line column
  exact ⟨_, errors, ha', ha⟩

end Backdrops

def Turn.against (b : Backdrop) : Turn → Turn
  | going m => going (m.against b)
  | ended m failure => ended (m.against b) failure

section Turns

variable {m m' final : Machine} {b : Backdrop} {failure : Option Failure} {count : Nat}

theorem course_of_going (turn : m.step = .going m') :
    m.course (count + 1) = m.next?.toList ++ m'.course count := by
  simp only [course, turn]

theorem course_of_ended (turn : m.step = .ended final failure) :
    m.course (count + 1) = m.next?.toList := by
  simp only [course, turn, List.append_nil]

theorem step_against (same : ∀ number ∈ m.next?, b.program.get? number = m.program.get? number)
    (timeless : ∀ number ∈ m.next?, ∀ text ∈ m.program.get? number, Statement.Timeless text) :
    ∃ b', b'.program = b.program ∧ (m.against b).step = m.step.against b' := by
  cases hn : m.next? with
  | none =>
    obtain ⟨errors, hf⟩ := m.finishRun_against b
    refine ⟨{ b with errors }, rfl, ?_⟩
    rw [step_of_next?_none hn, step_of_next?_none (m := m.against b) hn, hf]
    rfl
  | some number =>
    obtain ⟨halted, next⟩ := next?_eq_some_iff.mp hn
    have stored := same number hn
    rw [step_of_taken halted next, step_of_taken (m := m.against b) halted next]
    cases hp : m.program.get? number with
    | none =>
      rw [hp] at stored
      obtain ⟨final, errors, ha, hb⟩ := abortRun_against { m with current := some number }
        { b with current := some number } (.lineMissing number) number 0
      refine ⟨{ b with current := some number, errors }, rfl, ?_⟩
      rw [executeLine_of_none hp, executeLine_of_none (m := m.against b) stored, ha]
      exact hb
    | some text =>
      rw [hp] at stored
      obtain ⟨errors, taken⟩ := m.taken_against b number
      let b' : Backdrop := { b with current := some number, clock := b.clock.tick, errors }
      rw [executeLine_of_some hp, executeLine_of_some (m := m.against b) stored, taken,
        (timeless number hn text hp).execute_against]
      cases Statement.execute (.start (m.taken number) text) with
      | ok u s => exact ⟨b', rfl, rfl⟩
      | error cause s =>
        obtain ⟨final, errors', ha, hb⟩ :=
          s.machine.abortRun_against b' cause number s.cursor.column
        refine ⟨{ b' with errors := errors' }, rfl, hb.trans ?_⟩
        simp only [Turn.ofResult, ha]
        rfl

end Turns

section Pauses

variable {p p' : Program} {m m' final : Machine} {b : Backdrop} {failure : Option Failure}
  {count room : Nat} {breaks : List Break} {lines : List Int} {number : Int} {text : Text}

theorem step_remark (next : m.next? = some number) (stored : m.program.get? number = some text)
    (remark : Keyword.remark.begins text = true) : m.step = .going (m.taken number) := by
  obtain ⟨halted, next⟩ := next?_eq_some_iff.mp next
  obtain ⟨c, executed⟩ := (Keyword.opens_of_begins remark).execute_remark (m := m.taken number)
  rw [step_of_taken halted next, executeLine_of_some stored, executed]
  rfl

theorem step_pause (next : m.next? = some number) (stored : m.program.get? number = some text)
    (pause : Keyword.pause.begins text = true) :
    m.step = .going { m.taken number with halted := true } := by
  obtain ⟨halted, next⟩ := next?_eq_some_iff.mp next
  obtain ⟨c, executed⟩ := (Keyword.opens_of_begins pause).execute_pause (m := m.taken number)
  rw [step_of_taken halted next, executeLine_of_some stored, executed]
  rfl

theorem turns_pause (count : Nat) (next : m.next? = some number)
    (stored : m.program.get? number = some text) (pause : Keyword.pause.begins text = true) :
    turns (count + 2) m = some ({ m.taken number with halted := true }.finishRun, none) ∧
      m.course (count + 2) = [number] := by
  have turn := step_pause next stored pause
  have ends : ({ m.taken number with halted := true } : Machine).step =
      .ended ({ m.taken number with halted := true } : Machine).finishRun none :=
    step_of_next?_none rfl
  refine ⟨(turns_of_going turn).trans (turns_of_ended ends), ?_⟩
  rw [course_of_going turn, course_of_ended ends, next]
  rfl

theorem halted_finishRun : m.finishRun.halted = m.halted := by
  obtain ⟨errors, hf⟩ := m.exists_finishRun_eq
  rw [hf]

/-- A machine that is only halted for a while goes on as if it never was, with the room that it is
given then. -/
theorem resumedAfter_finishRun (running : m.running = true) (halted : m.halted = false)
    (k : Break) : ∃ b, b.program = m.program ∧
      ({ m with halted := true } : Machine).finishRun.resumedAfter k =
        (m.against b).within k.room := by
  obtain ⟨errors, hf⟩ := ({ m with halted := true } : Machine).exists_finishRun_eq
  refine ⟨{ m.backdrop with clock := k.clock, errors }, rfl, ?_⟩
  rw [hf]
  simp only [resumedAfter, resumed, within, against, backdrop, running, halted]

/-- After a pause in the place of a remark, the machine stands where the remark leaves it. -/
theorem resumedAfter_taken (next : m.next? = some number) (running : m.running = true)
    (room : Nat) (k : Break) : ∃ b', b'.program = b.program ∧
      ({ ((m.against b).within room).taken number with halted := true } :
        Machine).finishRun.resumedAfter k =
        ((m.taken number).against b').within k.room := by
  obtain ⟨errors, taken⟩ := m.taken_against b number
  obtain ⟨errors', ht⟩ := m.exists_taken_eq number
  have there : ((m.against b).within room).taken number = _ := taken_within room _ number
  rw [taken] at there
  have going : (((m.against b).within room).taken number).running = true ∧
      (((m.against b).within room).taken number).halted = false := by
    rw [there, ht]
    exact ⟨running, (next?_eq_some_iff.mp next).1⟩
  obtain ⟨b', program, same⟩ := resumedAfter_finishRun going.1 going.2 k
  rw [there] at program
  refine ⟨b', program, same.trans ?_⟩
  rw [there]
  rfl

theorem Continued.head (turn : m.step = .going m') (h : Continued breaks m' lines final failure) :
    Continued breaks m (m.next?.toList ++ lines) final failure := by
  cases h with
  | ended run =>
    rw [← course_of_going turn]
    exact .ended ((turns_of_going turn).trans run)
  | halted run halted later =>
    rw [← List.append_assoc, ← course_of_going turn]
    exact .halted ((turns_of_going turn).trans run) halted later

/-- A run ends, and so does the run with pauses once it was continued after each of them, unless
there is more room then and the run fails for lack of it. -/
theorem exists_continued (pausing : p.Pausing p')
    (timeless : ∀ number, ∀ text ∈ p.get? number, Statement.Timeless text)
    (program : m.program = p) (program' : b.program = p') (running : m.running = true)
    (run : turns count m = some (final, failure)) (fits : Fits m.room room failure)
    (breaks_fit : ∀ k ∈ breaks, Fits m.room k.room failure)
    (times : breaks.length = (m.course count).countP (p.replaced p')) :
    ∃ b' room', Continued breaks ((m.against b).within room) (m.course count)
      ((final.against b').within room') failure := by
  induction count generalizing m b room breaks with
  | zero => cases run
  | succ count ih =>
    by_cases replaces : ∃ number, m.next? = some number ∧ p.replaced p' number = true
    · obtain ⟨number, next, replaced⟩ := replaces
      obtain ⟨text, text', stored, remark, stored', pause⟩ := pausing.line replaced
      subst program program'
      have turn := step_remark next stored remark
      rw [turns_of_going turn] at run
      rw [course_of_going turn, next] at times ⊢
      obtain ⟨k, breaks, rfl⟩ : ∃ k rest, breaks = k :: rest := by
        refine List.exists_cons_of_length_pos ?_
        simp [times, replaced]
      obtain ⟨fits, breaks_fit⟩ := List.forall_mem_cons.mp breaks_fit
      obtain ⟨b', program', resumes⟩ := resumedAfter_taken (b := b) next running room k
      obtain ⟨stops, course⟩ :=
        turns_pause (m := (m.against b).within room) 0 next stored' pause
      have fixed := going_fixed turn
      rw [← fixed.2.2] at fits breaks_fit
      obtain ⟨b'', room', h⟩ := ih fixed.1 program' (fixed.2.1.trans running) run fits breaks_fit
        (by simpa [replaced] using times)
      have continued := Continued.halted stops halted_finishRun (resumes ▸ h)
      rw [course] at continued
      exact ⟨b'', room', continued⟩
    · have none : ∀ number ∈ m.next?, p.replaced p' number = false := by simpa using replaces
      have uncounted : m.next?.toList.countP (p.replaced p') = 0 := by
        simpa [List.countP_eq_zero] using none
      have same : ∀ number ∈ m.next?, b.program.get? number = m.program.get? number := by
        intro number hn
        rw [program, program']
        simpa [Program.replaced] using none number hn
      have still : ∀ number ∈ m.next?, ∀ text ∈ m.program.get? number,
          Statement.Timeless text := fun number _ => program ▸ timeless number
      obtain ⟨b', hb', turn'⟩ := step_against same still
      cases turn : m.step with
      | ended final' failure' =>
        rw [turns_of_ended turn] at run
        rw [course_of_ended turn] at times ⊢
        rw [turn] at turn'
        cases run
        obtain rfl : breaks = [] := List.length_eq_zero_iff.mp (times.trans uncounted)
        have ended := step_within_of_ended (m := m.against b) fits turn'
        have run' : turns (count + 1) _ = _ := turns_of_ended ended
        have continued := Continued.ended run'
        rw [course_of_ended ended] at continued
        exact ⟨b', room, continued⟩
      | going m' =>
        rw [turns_of_going turn] at run
        rw [course_of_going turn] at times ⊢
        rw [turn] at turn'
        rw [List.countP_append, uncounted, Nat.zero_add] at times
        have fixed := going_fixed turn
        have going := step_within_of_going (m := m.against b) fits.le turn'
        rw [← fixed.2.2] at fits breaks_fit
        obtain ⟨b'', room', h⟩ := ih (fixed.1.trans program) (hb'.trans program')
          (fixed.2.1.trans running) run fits breaks_fit times
        exact ⟨b'', room', .head going h⟩

theorem not_pause_of_course (run : turns count m = some (final, failure))
    (unhalted : final.halted = false) :
    ∀ number ∈ m.course count, ∀ text ∈ m.program.get? number,
      Keyword.pause.begins text = false := by
  induction count generalizing m with
  | zero => cases run
  | succ count ih =>
    have first : ∀ number ∈ m.next?, ∀ text ∈ m.program.get? number,
        Keyword.pause.begins text = false := by
      intro number next text stored
      rw [Bool.eq_false_iff]
      intro pause
      cases count with
      | zero =>
        rw [turns_of_going (step_pause next stored pause)] at run
        cases run
      | succ count =>
        rw [(turns_pause count next stored pause).1] at run
        cases run
        cases halted_finishRun.symm.trans unhalted
    intro number hn
    cases turn : m.step with
    | ended final' failure' =>
      rw [course_of_ended turn] at hn
      exact first number (by simpa using hn)
    | going m' =>
      rw [turns_of_going turn] at run
      rw [course_of_going turn] at hn
      rcases List.mem_append.mp hn with hn | hn
      · exact first number (by simpa using hn)
      · rw [← (going_fixed turn).1]
        exact ih run number hn

/-- A run that does not end halted has met pauses in the places of remarks only. -/
theorem countP_replaced (pausing : p.Pausing p') (program : m.program = p)
    (run : turns count m = some (final, failure)) (unhalted : final.halted = false) :
    (m.course count).countP (p.replaced p') = (m.course count).countP p'.pausesAt := by
  refine List.countP_congr fun number hn => ?_
  subst program
  have plain := not_pause_of_course run unhalted number hn
  constructor
  · intro replaced
    obtain ⟨-, text', -, -, stored', pause⟩ := pausing.line replaced
    simpa [Program.pausesAt, stored'] using pause
  · intro pause
    obtain ⟨text, stored, begins⟩ := (Option.any_eq_true _ _).mp pause
    rw [Program.replaced, bne_iff_ne]
    intro same
    cases (plain text (same.symm.trans stored)).symm.trans begins

end Pauses

/-- Pauses in the places of remarks do not change what a run does, once it was continued after
each of them. If the run without them does not end halted, these are all pauses on its way. Only a
run that fails for lack of room may go on where it is continued with more. -/
theorem pauses_transparent {m m' final : Machine} {count : Nat} {failure : Option Failure}
    {breaks : List Break} (pausing : m.program.Pausing m'.program)
    (timeless : ∀ line ∈ m.program.entries, Statement.Timeless line.2)
    («variables» : m'.variables = m.variables) (generator : m'.generator = m.generator)
    (input : m'.console.input = m.console.input) (output : m'.console.output = m.console.output)
    (room : m'.room = m.room) (run : m.runFor count = some (final, failure))
    (fits : ∀ k ∈ breaks, Fits m.room k.room failure)
    (times : breaks.length =
      (m.restarted.course count).countP (m.program.replaced m'.program)) :
    ∃ final', Continued breaks m'.restarted (m.restarted.course count) final' failure ∧
      final'.console.output = final.console.output ∧ final'.variables = final.variables ∧
      final'.stack = final.stack ∧ final'.position = final.position ∧
      final'.console.input = final.console.input ∧ final'.generator = final.generator ∧
      final'.halted = final.halted ∧
      (final.halted = false →
        breaks.length = (m.restarted.course count).countP m'.program.pausesAt) := by
  obtain ⟨errors, hm⟩ := m.exists_restarted_eq
  obtain ⟨errors', hm'⟩ := m'.exists_restarted_eq
  have program : m.restarted.program = m.program := by rw [hm]
  have running : m.restarted.running = true := by rw [hm]
  have least : m.restarted.room = m.room := by rw [hm]
  have start : m'.restarted = (m.restarted.against m'.restarted.backdrop).within m.room := by
    rw [hm, hm', pausing.numbers, «variables», generator, room]
    simp only [within, against, backdrop, input, output]
  have program' : m'.restarted.backdrop.program = m'.program := by rw [hm', backdrop]
  obtain ⟨b, room', continued⟩ := exists_continued pausing
    (fun number text stored => timeless (number, text) ((Table.get?_eq_some_iff _ _ _).mp stored))
    program program' running run (.inl least.symm) (least.symm ▸ fits) times
  rw [← start] at continued
  exact ⟨_, continued, rfl, rfl, rfl, rfl, rfl, rfl, rfl, fun unhalted =>
    times.trans (countP_replaced pausing program run unhalted)⟩

theorem timeless_of_unread {p : Program} (unread : ∀ line ∈ p.entries, ∀ n ≤ line.2.length,
    Cursor.readsClock ⟨n, line.2.drop n⟩ = false) :
    ∀ line ∈ p.entries, Statement.Timeless line.2 :=
  fun line hl => .of_start (Cursor.timeless_start (unread line hl))

theorem pausing_storeLine {m : Machine} {number : Int} {pause : Text}
    (remark : (m.program.get? number).any Keyword.remark.begins = true)
    (pauses : Keyword.pause.begins pause.trim = true)
    (numbers : (m.storeLine number pause).program.lineNumbers = m.program.lineNumbers) :
    m.program.Pausing (m.storeLine number pause).program := by
  obtain ⟨text, stored, begins⟩ := (Option.any_eq_true _ _).mp remark
  refine ⟨numbers, fun other replaced => ?_⟩
  have found : (m.storeLine number pause).program.get? other =
      if other = number then some pause.trim else m.program.get? other :=
    Table.get?_insert ..
  rw [Program.replaced, found] at replaced
  split at replaced
  · rename_i same
    subst same
    exact ⟨text, pause.trim, stored, begins, found.trans (if_pos rfl), pauses⟩
  · simp at replaced

/-- A loop that is continued after the pause in each of its rounds, the second time with more
room. -/
theorem pause_within_loop :
    let m := ((((fresh 0 0 (.ofInput [])).storeLine 10
      ['F', 'O', 'R', ' ', 'I', '=', '1', ' ', 'T', 'O', ' ', '2']).storeLine 20
      ['R', 'E', 'M']).storeLine 30 ['P', 'R', 'I', 'N', 'T', ' ', 'I']).storeLine 40
      ['N', 'E', 'X', 'T', ' ', 'I']
    let m' := m.storeLine 20 ['S', 'T', 'O', 'P']
    ∃ final, Continued [⟨5, 0⟩, ⟨9, 1⟩] m'.restarted [10, 20, 30, 40, 20, 30, 40] final none ∧
      final.console.output = "1\n2\n" ∧ final.stack = [] ∧ final.halted = false := by
  intro m m'
  have pausing : m.program.Pausing m'.program :=
    pausing_storeLine (m := m) (by decide +kernel) (by decide +kernel) (by decide +kernel)
  have unread : ∀ line ∈ m.program.entries, ∀ n ≤ line.2.length,
      Cursor.readsClock ⟨n, line.2.drop n⟩ = false := by decide +kernel
  obtain ⟨final, run, output, stack, unhalted⟩ : ∃ final, m.runFor 8 = some (final, none) ∧
      final.console.output = "1\n2\n" ∧ final.stack = [] ∧ final.halted = false :=
    exists_ended_well (by decide +kernel)
  have lines : m.restarted.course 8 = [10, 20, 30, 40, 20, 30, 40] := by decide +kernel
  have times : [(⟨5, 0⟩ : Break), ⟨9, 1⟩].length =
      (m.restarted.course 8).countP (m.program.replaced m'.program) := by
    decide +kernel
  have fits : ∀ k ∈ [(⟨5, 0⟩ : Break), ⟨9, 1⟩], Fits m.room k.room none :=
    fun _ _ => .inr ⟨Nat.zero_le _, nofun⟩
  obtain ⟨final', continued, written, -, same, -, -, -, halted, -⟩ :=
    pauses_transparent pausing (timeless_of_unread unread) rfl rfl rfl rfl rfl run fits times
  rw [lines] at continued
  exact ⟨final', continued, written.trans output, same.trans stack, halted.trans unhalted⟩

/-- A program's own pause is passed as well by a run that is continued until it ends unhalted, and a
run that lacks room ends where it is continued with more. -/
theorem own_pause_passed_and_room_shown :
    (let m := (((fresh 0 0 (.ofInput [])).storeLine 10
      ['P', 'R', 'I', 'N', 'T', ' ', '1']).storeLine 20 ['S', 'T', 'O', 'P']).storeLine 30
      ['P', 'R', 'I', 'N', 'T', ' ', '2']
    m.program.Pausing m.program ∧ (∀ line ∈ m.program.entries, Statement.Timeless line.2) ∧
      (∃ final, m.runFor 3 = some (final, none) ∧ final.console.output = "1\n") ∧
      ∃ final, Continued [⟨0, m.room⟩] m.restarted [10, 20, 30] final none ∧
        final.halted = false ∧ final.console.output = "1\n2\n") ∧
    let m := (({ fresh 0 0 (.ofInput []) with room := 6 }.storeLine 5 ['R', 'E', 'M']).storeLine 10
      ['L', 'E', 'T', ' ', 'X', '=', '(', '1', ')'])
    let m' := m.storeLine 5 ['S', 'T', 'O', 'P']
    m.program.Pausing m'.program ∧ (∀ line ∈ m.program.entries, Statement.Timeless line.2) ∧
      LacksRoom (m.runFor 2) ∧
      ∃ final, Continued [⟨0, m.room + 1⟩] m'.restarted [5, 10] final none := by
  constructor
  · intro m
    have unread : ∀ line ∈ m.program.entries, ∀ n ≤ line.2.length,
        Cursor.readsClock ⟨n, line.2.drop n⟩ = false := by decide +kernel
    obtain ⟨stop, run, output, halted⟩ : ∃ stop, m.runFor 3 = some (stop, none) ∧
        stop.console.output = "1\n" ∧ stop.halted = true :=
      exists_ended_well (by decide +kernel)
    let k : Break := ⟨0, m.room⟩
    obtain ⟨final, later, output', unhalted⟩ : ∃ final,
        ((m.runFor 3).bind fun o => turns 2 (o.1.resumedAfter k)) = some (final, none) ∧
          final.console.output = "1\n2\n" ∧ final.halted = false :=
      exists_ended_well (by decide +kernel)
    rw [run] at later
    have lines : (m.runFor 3).map (fun o => m.restarted.course 3 ++
        (o.1.resumedAfter k).course 2) = some [10, 20, 30] := by
      decide +kernel
    rw [run] at lines
    have lines : m.restarted.course 3 ++ (stop.resumedAfter k).course 2 = [10, 20, 30] :=
      Option.some.inj lines
    have continued : Continued [k] m.restarted [10, 20, 30] final none :=
      lines ▸ .halted run halted (.ended later)
    refine ⟨⟨rfl, fun number replaced => ?_⟩, timeless_of_unread unread, ⟨stop, run, output⟩,
      final, continued, unhalted, output'⟩
    simp [Program.replaced] at replaced
  · intro m m'
    have pausing : m.program.Pausing m'.program :=
      pausing_storeLine (m := m) (by decide +kernel) (by decide +kernel) (by decide +kernel)
    have unread : ∀ line ∈ m.program.entries, ∀ n ≤ line.2.length,
        Cursor.readsClock ⟨n, line.2.drop n⟩ = false := by decide +kernel
    have lacks : LacksRoom (m.runFor 2) := .of_any (by decide +kernel)
    obtain ⟨stop, run, halted⟩ : ∃ stop, m'.runFor 2 = some (stop, none) ∧ stop.halted = true :=
      exists_ended_well (by decide +kernel)
    let k : Break := ⟨0, m.room + 1⟩
    obtain ⟨final, later, -⟩ : ∃ final,
        ((m'.runFor 2).bind fun o => turns 2 (o.1.resumedAfter k)) = some (final, none) ∧
          final.halted = false :=
      exists_ended_well (by decide +kernel)
    rw [run] at later
    have lines : (m'.runFor 2).map (fun o => m'.restarted.course 2 ++
        (o.1.resumedAfter k).course 2) = some [5, 10] := by
      decide +kernel
    rw [run] at lines
    have lines : m'.restarted.course 2 ++ (stop.resumedAfter k).course 2 = [5, 10] :=
      Option.some.inj lines
    have continued : Continued [k] m'.restarted [5, 10] final none :=
      lines ▸ .halted run halted (.ended later)
    exact ⟨pausing, timeless_of_unread unread, lacks, final, continued⟩

end Machine

end NumberedBasic
