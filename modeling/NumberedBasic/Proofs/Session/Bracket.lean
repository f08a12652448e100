import NumberedBasic.Proofs.Run.Bracket
import NumberedBasic.Proofs.Session.Operation

/-! # Brackets across operations

All that a session can be asked for except a new run is made of moves of its machine. The
brackets on the stack therefore reach from one operation to another.
-/

namespace NumberedBasic

namespace Machine

variable {m m' : Machine}

theorem above_ingestAll (m : Machine) (lines : List Text) : Above 0 m (m.ingestAll lines).1 := by
  induction lines generalizing m with
  | nil => exact .start (Nat.zero_le _)
  | cons line lines ih =>
    unfold ingestAll
    split
    · exact ih m
    · have ingested : Above 0 m (m.ingest line).1 :=
        .single (.ingested line) (Nat.zero_le _) (Nat.zero_le _)
      split
      · rename_i he
        rw [he] at ingested
        exact ingested.trans (ih _)
      · rename_i he
        rw [he] at ingested
        exact ingested

theorem above_turns {count : Nat} {failure : Option Failure}
    (h : turns count m = some (m', failure)) : Above 0 m m' := by
  obtain ⟨last, underway, ended⟩ := exists_underway_of_turns h
  have turned : Above 0 m last := underway.keeps (.start (Nat.zero_le _))
    fun _ _ earlier turn => .move earlier (.turned turn) (Nat.zero_le _)
  exact .move turned (.ended ended) (Nat.zero_le _)

end Machine

namespace Session

open Machine

variable {s s' : Session} {operation : Operation} {result : Answer}

theorem above_allow (s : Session) (calls : Nat) : Above 0 s.machine (s.allow calls).machine :=
  .single (.meanwhile s.machine.clock s.machine.console (s.room + calls)) (Nat.zero_le _)
    (Nat.zero_le _)

theorem above_loadFrom (s : Session) (path : Path) :
    Above 0 s.machine (s.loadFrom path).1.machine := by
  have ingested {lines : List Text} {m : Machine} {failure : Option Cause}
      (he : s.machine.ingestAll lines = (m, failure)) : Above 0 s.machine m := by
    have all := s.machine.above_ingestAll lines
    rwa [he] at all
  obtain ⟨s', result, eq, loading⟩ := s.loading path
  rw [eq]
  cases loading with
  | unread _ => exact .start (Nat.zero_le _)
  | failed _ he => exact ingested he
  | undecodable _ he => exact ingested he
  | loaded _ he => exact .move (ingested he) (.logged _ _ _) (Nat.zero_le _)

theorem above_load (s : Session) (name : Text) :
    Above 0 s.machine (s.load name).1.machine := by
  unfold load
  split
  · exact .start (Nat.zero_le _)
  · exact s.above_loadFrom _

theorem above_save (s : Session) (name : Text) :
    Above 0 s.machine (s.save name).1.machine := by
  unfold save saveTo
  split
  · exact .start (Nat.zero_le _)
  · dsimp only
    split
    · exact .start (Nat.zero_le _)
    · split
      · exact .single (.logged _ _ _) (Nat.zero_le _) (Nat.zero_le _)
      · exact .start (Nat.zero_le _)

/-- Every operation that is no new run is made of moves. -/
theorem above_answer (old : ∀ turns, operation ≠ .run turns)
    (answer : s.answer operation = some (s', result)) : Above 0 s.machine s'.machine := by
  have single {m m' : Machine} (move : m.Move m') : Above 0 m m' :=
    .single move (Nat.zero_le _) (Nat.zero_le _)
  cases operation with
  | ingest text =>
    cases answer
    exact (s.above_allow 3).trans (single (.ingested text))
  | execute text =>
    cases answer
    exact (s.above_allow 4).trans (single (.executed text))
  | assign name value =>
    cases answer
    exact single (.assigned name value)
  | clear =>
    cases answer
    exact single .cleared
  | new =>
    cases answer
    exact single .emptied
  | delete number =>
    simp only [Session.answer] at answer
    split at answer
    · rename_i hd
      cases answer
      exact single (.deleted hd)
    · cases answer
      exact .start (Nat.zero_le _)
  | run turns => exact absurd rfl (old turns)
  | resume turns =>
    obtain ⟨⟨m, failure⟩, ht, he⟩ := Option.map_eq_some_iff.mp answer
    cases he
    exact (s.above_allow 4).trans ((single .resumed).trans (above_turns ht))
  | load name =>
    cases answer
    exact (s.above_allow 2).trans ((s.allow 2).above_load name)
  | save name =>
    cases answer
    exact s.above_save name

end Session

namespace Machine

/-- Operations other than a new run are made of moves. A move changes the stack by one frame
at most, moves that keep the stack above a height keep the frames below it, and a return
from a call goes on behind the call with the stack that the call had found. -/
theorem frames_bracketed :
    (∀ (s s' : Session) (operation : Operation) (result : Answer),
      (∀ turns, operation ≠ .run turns) → s.answer operation = some (s', result) →
      Above 0 s.machine s'.machine) ∧
    (∀ m m' : Machine, m.Move m' → m.stack.Shift m'.stack) ∧
    (∀ (height : Nat) (m m' : Machine), Above height m m' →
      m'.stack.bottom height = m.stack.bottom height) ∧
    ∀ m called before after : Machine, m.RunsLine .call called →
      Above (m.stack.length + 1) called before → before.stack.length = m.stack.length + 1 →
      before.RunsLine .resume after ∨ before.Performs .resume after →
      after.position = m.position + 1 ∧ after.stack = m.stack := by
  refine ⟨fun _ _ _ _ => Session.above_answer, fun _ _ => Move.shift,
    fun _ _ _ => Above.bottom_eq, ?_⟩
  intro m called before after call between length resume
  have height : called.stack.length = m.stack.length + 1 := by
    rw [call_stack call, List.length_cons]
  rw [← height] at between length
  exact resume_call call between length resume

def Turn.isGoing : Turn → Bool
  | going _ => true
  | ended _ _ => false

/-- A subroutine that is called in a loop runs a loop of its own and returns into the first. -/
theorem return_into_loop :
    let m := (((((fresh 0 0 (.ofInput [])).storeLine 10 ['D', 'O']).storeLine 20
      ['G', 'O', 'S', 'U', 'B', ' ', '3', '0']).storeLine 30
      ['F', 'O', 'R', ' ', 'I', '=', '1', ' ', 'T', 'O', ' ', '1']).storeLine 40
      ['N', 'E', 'X', 'T', ' ', 'I']).storeLine 50 ['R', 'E', 'T', 'U', 'R', 'N']
    ∃ called before after, RunsLine .call m.restarted.step.machine called ∧
      Above 2 called before ∧ before.RunsLine .resume after ∧
      after.position = 2 ∧ after.stack = [.repetition 1] := by
  intro m
  let start := m.restarted.step.machine
  let called := start.step.machine
  let counting := called.step.machine
  let before := counting.step.machine
  let after := before.step.machine
  have turn (m : Machine) (h : m.step.isGoing = true) : m.step = .going m.step.machine := by
    cases hs : m.step with
    | going next => rfl
    | ended next failure => simp [hs, Turn.isGoing] at h
  have runs (m : Machine) (k : Keyword) (number : Int) (text : Text)
      (turn : m.step = .going m.step.machine) (next : m.address[m.position]? = some number)
      (stored : m.program.get? number = some text)
      (selects : let s : Execution := .start (m.taken number) text
        Statement.selected s.context s.reading = some k) : m.RunsLine k m.step.machine := by
    obtain ⟨r, hr⟩ := Statement.selected_eq_some_iff.mp selects
    exact ⟨turn, number, text, r, next, stored, hr⟩
  have call : start.RunsLine .call called :=
    runs start .call 20 ['G', 'O', 'S', 'U', 'B', ' ', '3', '0'] (turn start (by decide +kernel))
      (by decide +kernel) (by decide +kernel) (by decide +kernel)
  have between : Above 2 called before := by
    refine .move (.move (.start ?_) (.turned (turn called ?_)) ?_) (.turned (turn counting ?_)) ?_
    all_goals decide +kernel
  have resume : before.RunsLine .resume after :=
    runs before .resume 50 ['R', 'E', 'T', 'U', 'R', 'N'] (turn before (by decide +kernel))
      (by decide +kernel) (by decide +kernel) (by decide +kernel)
  have stack : start.stack = [.repetition 1] := by decide +kernel
  have position : start.position = 1 := by decide +kernel
  have length : before.stack.length = start.stack.length + 1 := by decide +kernel
  have height : 2 = start.stack.length + 1 := by decide +kernel
  have bracket := frames_bracketed.2.2.2 start called before after call (height ▸ between) length
    (.inl resume)
  rw [stack, position] at bracket
  exact ⟨called, before, after, call, between, resume, bracket⟩

end Machine

end NumberedBasic
