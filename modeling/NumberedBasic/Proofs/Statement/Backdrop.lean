import NumberedBasic.Proofs.Evaluation.Clock
import NumberedBasic.Proofs.Statement.Likeness

/-! # The backdrop of statements

Statements neither read nor change the program, the line that a run took up last and the error
channel, and only some of them read the clock. They do the same against any backdrop that is
made of these, unless they can see another time there.
-/

namespace NumberedBasic

structure Backdrop where
  program : Program
  current : Option Int
  clock : Clock
  errors : String
  verbose : Bool

namespace Machine

def backdrop (m : Machine) : Backdrop :=
  ⟨m.program, m.current, m.clock, m.console.errors, m.console.verbose⟩

def against (m : Machine) (b : Backdrop) : Machine :=
  { m with
    program := b.program
    current := b.current
    clock := b.clock
    console := { m.console with errors := b.errors, verbose := b.verbose } }

end Machine

namespace Execution

def against (s : Execution) (b : Backdrop) : Execution :=
  { s with machine := s.machine.against b }

/-- The backdrop shows the same time, or nothing ahead looks. -/
def Hides (s : Execution) (b : Backdrop) : Prop :=
  b.clock.now = s.machine.clock.now ∨ s.cursor.Timeless

end Execution

namespace Exec

variable {α : Type}

def against (b : Backdrop) : EStateM.Result Cause Execution α → EStateM.Result Cause Execution α
  | .ok a s => .ok a (s.against b)
  | .error cause s => .error cause (s.against b)

end Exec

/-- The second machine is the first one against the backdrop, at a time that does not show. -/
def Likeness.against (b : Backdrop) (o : Outlook)
    (only : ∀ {clock clock' g g'}, o.alike clock clock' g g' → g = g') : Likeness where
  outlook := o
  Like m m' := m' = m.against b ∧ o.alike m.clock.now b.clock.now m.generator m.generator
  alike := by
    rintro m _ ⟨rfl, alike⟩
    exact alike
  rooms := by
    rintro m _ ⟨rfl, -⟩
    exact .inl rfl
  agrees := by
    rintro m _ ⟨rfl, -⟩
    exact ⟨rfl, rfl, rfl, rfl, rfl, rfl⟩
  draw := by
    rintro m _ ⟨rfl, alike⟩ g g' drawn
    obtain rfl := only drawn
    exact ⟨rfl, o.same alike g⟩
  assign h _ _ := ⟨by rw [h.1]; rfl, h.2⟩
  restack h _ := ⟨by rw [h.1]; rfl, h.2⟩
  goTo h _ := ⟨by rw [h.1]; rfl, h.2⟩
  halt h := ⟨by rw [h.1]; rfl, h.2⟩
  write h _ := ⟨by rw [h.1]; rfl, h.2⟩
  read h _ := ⟨by rw [h.1]; rfl, h.2⟩

namespace Statement

open Exec

variable {s : Execution} {b : Backdrop}

/-- A line does the same against any backdrop that hides its time. -/
theorem execute_against (h : s.Hides b) : execute (s.against b) = against b (execute s) := by
  obtain ⟨o, only, narrow, results⟩ : ∃ o only, ¬o.roomier ∧
      (Likeness.against b o only).Results (execute s) (execute (s.against b)) := by
    rcases h with same | timeless
    · have timely : (Likeness.against b (.exact False) And.right).Timely := by
        rintro m _ ⟨rfl, same, -⟩
        exact ⟨same, congrArg (fun now : Nat => Generator.ofSeed now) same⟩
      exact ⟨.exact False, And.right, id, execute_results
        ⟨⟨rfl, same.symm, rfl⟩, rfl, .inl rfl, Outlook.clear_exact _ _⟩ (.inl timely)⟩
    · exact ⟨.clock, id, id, execute_results
        ⟨⟨rfl, rfl⟩, rfl, .inl rfl, Outlook.clear_clock timeless⟩
        (.inr fun r hr => selectWithin_reseed timeless hr)⟩
  have same {room room' : Nat} (rooms : o.Rooms room room') : room = room' :=
    rooms.resolve_right fun roomier => narrow roomier.1
  generalize execute s = result at results ⊢
  generalize execute (s.against b) = result' at results ⊢
  cases results with
  | @ok a t t' state =>
    obtain ⟨⟨machine, -⟩, cursor, rooms, -⟩ := state
    obtain ⟨m, c, room⟩ := t'
    cases machine
    cases cursor
    cases same rooms
    rfl
  | @error cause t t' machine cursor rooms =>
    obtain ⟨machine, -⟩ := machine
    obtain ⟨m, c, room⟩ := t'
    cases machine
    cases cursor
    cases same rooms
    rfl
  | tooComplex roomier => exact absurd roomier narrow

/-- The line does the same at any time. -/
def Timeless (text : Text) : Prop :=
  ∀ (m : Machine) (clock : Clock), execute (.start { m with clock } text) =
    against { m.backdrop with clock } (execute (.start m text))

namespace Timeless

variable {text : Text}

/-- A line in which nothing reads the clock does the same at any time. -/
theorem of_start (h : (Cursor.start text).Timeless) : Timeless text :=
  fun m clock => Statement.execute_against (s := .start m text) (b := { m.backdrop with clock })
    (.inr h)

theorem execute_against (h : Timeless text) (m : Machine) (b : Backdrop) :
    execute (.start (m.against b) text) = against b (execute (.start m text)) := by
  let still : Backdrop := { b with clock := m.clock }
  have same := Statement.execute_against (s := .start m text) (b := still) (.inl rfl)
  have moved := h (m.against still) b.clock
  refine moved.trans ?_
  rw [show execute (.start (m.against still) text) = _ from same]
  cases execute (.start m text) <;> rfl

end Timeless

end Statement

end NumberedBasic
