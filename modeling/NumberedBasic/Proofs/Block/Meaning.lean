import NumberedBasic.Proofs.Statement.Local

/-! # Blocks

Programs that are built from plain lines and nested loops have a meaning of their
own, which knows nothing of positions and stacks: a loop repeats the meaning of its
body. A block is laid out with one line for every plain line, head and foot.
-/

namespace NumberedBasic

inductive Block where
  | nothing
  | plain (text : Text)
  | sequence (first second : Block)
  /-- `FOR` and `NEXT` lines around a body -/
  | counted (head : Text) (body : Block) (foot : Text)
  /-- `DO` and `LOOP` lines around a body -/
  | repeated (head : Text) (body : Block) (foot : Text)

/-- A failure, located by the index of a line in a layout. -/
structure Fault where
  cause : Cause
  line : Nat
  column : Nat

/-- Places a fault of a part in the layout of the whole. -/
def Fault.below (lines : Nat) (f : Fault) : Fault :=
  { f with line := lines + f.line }

/-- The data at the end and the fault that ended the execution, if any. -/
abbrev Outcome := Data × Option Fault

def Outcome.below (lines : Nat) (o : Outcome) : Outcome :=
  (o.1, o.2.map (·.below lines))

namespace Data

/-- The data when the clock was looked at again, as it is for every line. -/
def look (d : Data) : Data :=
  { d with clock := d.clock.tick }

/-- What an execution makes of data from the start of a line; a failure has a column. -/
def perform {α : Type} (d : Data) (x : Exec α) (text : Text) : Data × Except (Cause × Nat) α :=
  match x (.start ((Machine.fresh 0 0 (.ofInput [])).holding d.look) text) with
  | .ok a s => (s.machine.data, .ok a)
  | .error cause s => (s.machine.data, .error (cause, s.cursor.column))

end Data

namespace Block

def size : Block → Nat
  | nothing => 0
  | plain _ => 1
  | sequence first second => first.size + second.size
  | counted _ body _ | repeated _ body _ => body.size + 2

def lines : Block → List Text
  | nothing => []
  | plain text => [text]
  | sequence first second => first.lines ++ second.lines
  | counted head body foot | repeated head body foot => head :: body.lines ++ [foot]

def Opens (k : Keyword) (text : Text) : Prop :=
  ∀ context generator room, ∃ c,
    Statement.keyword context ⟨.start text, generator, room⟩ = .ok k ⟨c, generator, room⟩

def Names (k : Keyword) (name : Text) (text : Text) : Prop :=
  ∀ context generator room, ∃ c c',
    Statement.keyword context ⟨.start text, generator, room⟩ = .ok k ⟨c, generator, room⟩ ∧
    Eval.name context ⟨c, generator, room⟩ = .ok name ⟨c', generator, room⟩

/-- Plain lines are plain, and every loop has the lines of its kind around it. Both
lines of a counted loop name the same variable. -/
def WellFormed : Block → Prop
  | nothing => True
  | plain text => Statement.Plain text
  | sequence first second => first.WellFormed ∧ second.WellFormed
  | counted head body foot =>
    body.WellFormed ∧ ∃ name, Names .count name head ∧ Names .next name foot
  | repeated head body foot => body.WellFormed ∧ Opens .enter head ∧ Opens .close foot

def header : Exec (Text × Number × Number) := do
  let _ ← Statement.keyword
  let (name, first) ← Statement.loopStart
  Exec.change (·.assign name first)
  let (limit, step) ← Statement.loopRange
  return (name, limit, step)

def footer : Exec Bool := do
  let _ ← Statement.keyword
  Statement.repeats

/-- Adds the step to the variable, which has a value since the loop began. Another
round follows unless the variable is past the limit. -/
def advance (name : Text) (limit step : Number) (d : Data) : Data × Except (Cause × Nat) Bool :=
  let value := ((d.variables.get? name).getD 0).add step
  ({ d.look with «variables» := d.variables.insert name value },
    .ok !Statement.isPast value step limit)

/-- Runs a body until a verdict at the foot ends the loop; nothing, if it does not end
in so many rounds. -/
def rounds (body : Data → Option Outcome) (verdict : Data → Data × Except (Cause × Nat) Bool)
    (foot : Nat) : Nat → Data → Option Outcome
  | 0, _ => none
  | count + 1, d =>
    match body d with
    | some (d, none) =>
      match verdict d with
      | (d, .ok true) => rounds body verdict foot count d
      | (d, .ok false) => some (d, none)
      | (d, .error (cause, column)) => some (d, some ⟨cause, foot, column⟩)
    | outcome => outcome.map (.below 1)

/-- The meaning of a block: what it makes of data, if no loop takes more rounds than given. -/
def run (limit : Nat) : Block → Data → Option Outcome
  | nothing, d => some (d, none)
  | plain text, d =>
    match d.perform Statement.execute text with
    | (d, .ok ()) => some (d, none)
    | (d, .error (cause, column)) => some (d, some ⟨cause, 0, column⟩)
  | sequence first second, d =>
    match first.run limit d with
    | some (d, none) => (second.run limit d).map (.below first.size)
    | outcome => outcome
  | counted head body _, d =>
    match d.perform header head with
    | (d, .ok (name, last, step)) =>
      rounds (body.run limit) (advance name last step) (body.size + 1) limit d
    | (d, .error (cause, column)) => some (d, some ⟨cause, 0, column⟩)
  | repeated _ body foot, d =>
    rounds (body.run limit) (·.perform footer foot) (body.size + 1) limit d.look

end Block

end NumberedBasic
