import NumberedBasic.Expression
import NumberedBasic.Machine

/-! # Statements

A statement is executed while it is read, like an expression. It first evaluates
all it needs and then changes the machine, so a statement that fails has changed
nothing, apart from the variable that a counted loop starts from and the line
that an input has read.
-/

namespace NumberedBasic

/-- A machine in the middle of a line, and the room for the calls of its statement. -/
structure Execution where
  machine : Machine
  cursor : Cursor
  room : Nat

/-- A machine at the start of a line. -/
def Execution.start (m : Machine) (text : Text) : Execution :=
  ⟨m, Cursor.start text, m.room + 14⟩

abbrev Exec := EStateM Cause Execution

namespace Exec

variable {α : Type}

def evaluate (e : Eval α) : Exec α := fun s =>
  let moved (r : Reading) : Execution :=
    ⟨{ s.machine with generator := r.generator }, r.cursor, r.room⟩
  match e ⟨s.machine.variables, s.machine.clock.now⟩ ⟨s.cursor, s.machine.generator, s.room⟩ with
  | .ok value r => .ok value (moved r)
  | .error cause r => .error cause (moved r)

instance : MonadLift Eval Exec := ⟨evaluate⟩

def machine : Exec Machine := fun s => .ok s.machine s

def change (f : Machine → Machine) : Exec Unit := fun s =>
  .ok () { s with machine := f s.machine }

def ofExcept : Except Cause α → Exec α
  | .ok value => pure value
  | .error cause => throw cause

def goTo (position : Nat) : Exec Unit :=
  change fun m => { m with position }

def push (frame : Nat → Frame Nat) : Exec Unit :=
  change fun m => { m with stack := m.stack.push (frame m.position) }

end Exec

/-- The word that a statement starts with. -/
inductive Keyword where
  | assign
  | condition
  | remark
  | jump
  | call
  | resume
  | pause
  | finish
  | count
  | next
  | enter
  | close
  | print
  | input
  | reseed
  deriving DecidableEq, Repr

namespace Keyword

def all : List Keyword :=
  [assign, condition, remark, jump, call, resume, pause, finish, count, next, enter, close,
    print, input, reseed]

def spelling : Keyword → Text
  | assign => ['l', 'e', 't']
  | condition => ['i', 'f']
  | remark => ['r', 'e', 'm']
  | jump => ['g', 'o', 't', 'o']
  | call => ['g', 'o', 's', 'u', 'b']
  | resume => ['r', 'e', 't', 'u', 'r', 'n']
  | pause => ['s', 't', 'o', 'p']
  | finish => ['e', 'n', 'd']
  | count => ['f', 'o', 'r']
  | next => ['n', 'e', 'x', 't']
  | enter => ['d', 'o']
  | close => ['l', 'o', 'o', 'p']
  | print => ['p', 'r', 'i', 'n', 't']
  | input => ['i', 'n', 'p', 'u', 't']
  | reseed => ['r', 'a', 'n', 'd', 'o', 'm', 'i', 'z', 'e']

def ofWord? (word : Text) : Option Keyword :=
  all.find? (·.spelling = word)

end Keyword

namespace Statement

def assign : Exec Unit := do
  let name ← Eval.name
  Eval.demand ['=']
  let value ← Eval.expression
  Exec.change (·.assign name value)

/-- Executes the statement behind `then` if the condition is not zero, and
otherwise skips the rest of the line. -/
def conditional (nested : Exec Unit) : Exec Unit := do
  let condition ← Eval.expression
  Eval.require (← Eval.keyword ['t', 'h', 'e', 'n']) fun _ => .thenMissing
  Eval.descend
  if condition.isZero then Eval.skipLine else nested

/-- The index in the address table of the line that an expression names. -/
def target : Exec Nat := do
  Eval.require (← Exec.machine).running fun _ => .notRunning
  let number ← Eval.sumBelow 1
  let address := (← Exec.machine).address
  match number.truncate?.bind fun line => address.idxOf? line with
  | some position => return position
  | none => throw (.targetMissing number)

def jump : Exec Unit := do
  Exec.goTo (← target)

def call : Exec Unit := do
  let position ← target
  Exec.push .subroutine
  Exec.goTo position

def resume : Exec Unit := do
  let (position, stack) ←
    Exec.ofExcept ((← Exec.machine).stack.pop Frame.subroutine? "RETURN without GOSUB")
  Exec.change fun m => { m with stack, position }

def pause : Exec Unit :=
  Exec.change fun m => { m with halted := true }

def finish : Exec Unit :=
  Exec.change fun m => { m with position := m.address.length }

/-- The step of a counted loop: one, unless another is given. -/
def loopStep : Eval Number := do
  unless ← Eval.keyword ['s', 't', 'e', 'p'] do return 1
  let step ← Eval.sum
  if step.isZero then throw .zeroStep else return step

/-- Starts a counted loop. The variable has its first value before the limit is read. -/
def count : Exec Unit := do
  let name ← Eval.name
  Eval.demand ['=']
  let first ← Eval.sum
  Exec.change (·.assign name first)
  Eval.require (← Eval.keyword ['t', 'o']) (.expected ['t', 'o'])
  let limit ← Eval.sum
  let step ← loopStep
  Exec.push (.count step limit)

def isPast (value step limit : Number) : Bool :=
  if (0 : Number).less step then limit.less value else value.less limit

/-- Adds the step to a variable and begins the innermost counted loop again, or
ends it when the variable is past the limit. -/
def next : Exec Unit := do
  let name ← Eval.name
  match ← Eval.valueOf? name with
  | none => throw (.unknownVariable name)
  | some previous =>
    let (step, limit, position) ←
      Exec.ofExcept ((← Exec.machine).stack.top Frame.count? "NEXT without FOR")
    let value := previous.add step
    Exec.change (·.assign name value)
    if isPast value step limit then Exec.change fun m => { m with stack := m.stack.tail }
    else Exec.goTo position

def enterLoop : Exec Unit :=
  Exec.push .repetition

/-- Whether a loop's condition asks for another round. -/
def repeats : Eval Bool := do
  if ← Eval.keyword ['w', 'h', 'i', 'l', 'e'] then
    return !(← Eval.expression).isZero
  else if ← Eval.keyword ['u', 'n', 't', 'i', 'l'] then
    return (← Eval.expression).isZero
  else Eval.failNear .conditionExpected

def closeLoop : Exec Unit := do
  let again ← repeats
  let position ←
    Exec.ofExcept ((← Exec.machine).stack.top Frame.repetition? "LOOP without DO")
  if again then Exec.goTo position
  else Exec.change fun m => { m with stack := m.stack.tail }

/-- A quoted string, or the text of an expression's value. -/
def printable : Eval String := do
  match ← Eval.scanStrictly Cursor.string with
  | some content => return String.ofList content
  | none => return String.ofList (← Eval.expressionBelow 1).text

/-- Further printables, each behind a comma or a semicolon, at most as many as
given. Any semicolon keeps the line open, and a last one may end the list. -/
def printFurther : Nat → String → Bool → Eval (String × Bool)
  | 0, text, isOpen => return (text, isOpen)
  | items + 1, text, isOpen => do
    match ← Eval.scan (Cursor.anyOf [[','], [';']]) with
    | none => return (text, isOpen)
    | some separator =>
      if separator = [';'] then
        if ← Eval.atEnd then return (text, true)
        printFurther items (text ++ (← printable)) true
      else printFurther items (text ++ (← printable)) isOpen

/-- The text that a list of printables writes. -/
def printList : Eval String := do
  if ← Eval.atEnd then return "\n"
  let first ← printable
  let (text, isOpen) ← printFurther (← Eval.remaining) first false
  return if isOpen then text else text ++ "\n"

def print : Exec Unit := do
  let text ← printList
  Exec.change (·.write text)

/-- The prompt and the variables of an input. -/
def inputList : Eval (Text × List Text) := do
  match ← Eval.scanStrictly Cursor.string with
  | some prompt =>
    Eval.require (← Eval.literal [',']) .commaExpected
    return (prompt, ← Eval.separatedBy [','] Eval.name)
  | none => return ([], ← Eval.separatedBy [','] Eval.name)

/-- The number in a field, which is zero if the field is blank. -/
def fieldValue (field : Text) : Except Cause Number :=
  let field := field.trim
  if field.isEmpty then .ok 0
  else
    match Number.read? field with
    | some value => .ok value
    | none => .error (.invalidNumber field)

/-- Pairs each name with the value of its field. Missing fields count as blank and
surplus ones are not looked at. -/
def fieldValues : List Text → List Text → Except Cause (List (Text × Number))
  | [], _ => .ok []
  | name :: names, fields => do
    let value ← fieldValue (fields.headD [])
    return (name, value) :: (← fieldValues names fields.tail)

/-- The fields of an input line; there is none at the end of the input. -/
def lineFields (line : Text) : List Text :=
  if line.isEmpty then [] else line.dropLineEnd.splitAt ','

def ask (prompt : Text) : Exec Text := fun s =>
  let (line, console) := (s.machine.console.write (String.ofList prompt)).readLine
  .ok line { s with machine := { s.machine with console } }

def input : Exec Unit := do
  let (prompt, names) ← inputList
  let line ← ask prompt
  let values ← Exec.ofExcept (fieldValues names (lineFields line))
  Exec.change fun m => values.foldl (fun m v => m.assign v.1 v.2) m

/-- Seeds the random numbers from an expression, or from the clock. -/
def reseed : Exec Unit := do
  if ← Eval.atEnd then
    Exec.change fun m => { m with generator := Generator.ofSeed m.clock.now }
  else
    let value ← Eval.sum
    match value.truncate? with
    | some seed => Exec.change fun m => { m with generator := Generator.ofSeed seed }
    | none => throw (.invalidSeed value)

def body (nested : Exec Unit) : Keyword → Exec Unit
  | .assign => assign
  | .condition => conditional nested
  | .remark => Eval.skipLine
  | .jump => jump
  | .call => call
  | .resume => resume
  | .pause => pause
  | .finish => finish
  | .count => count
  | .next => next
  | .enter => enterLoop
  | .close => closeLoop
  | .print => print
  | .input => input
  | .reseed => reseed

def keyword : Eval Keyword := do
  Eval.skipBlanks
  match ← Eval.scan Cursor.word with
  | none => Eval.failNear .statementExpected
  | some word =>
    match Keyword.ofWord? word with
    | some k => return k
    | none => throw (.unknownStatement word)

/-- Executes a statement with less conditions inside each other than given. -/
def executeWithin : Nat → Exec Unit
  | 0 => throw .tooComplex
  | depth + 1 => do
    body (executeWithin depth) (← keyword)

/-- Executes a statement. There is less room behind every condition, so the conditions
inside each other are fewer than the room. -/
def execute : Exec Unit := fun s =>
  executeWithin (s.room + 1) s

end Statement

end NumberedBasic
