import NumberedBasic.ControlStack
import NumberedBasic.Generator
import NumberedBasic.Program
import NumberedBasic.Variables

/-! # The machine

The state of an interpreter: a program, variables, the control stack, and the
table of line numbers that a run follows. Its console holds the text that is
still to be read and the text that was written.
-/

namespace NumberedBasic

/-- What is left to read, and what was written on the two channels. -/
structure Console where
  input : Text
  output : String
  errors : String
  /-- whether a log is kept on the error channel -/
  verbose : Bool
  deriving DecidableEq, Inhabited

namespace Console

def ofInput (input : Text) : Console := ⟨input, "", "", false⟩

def write (c : Console) (text : String) : Console :=
  { c with output := c.output ++ text }

def writeError (c : Console) (text : String) : Console :=
  { c with errors := c.errors ++ text }

/-- The next line of the input, with its line feed; empty at the end. -/
def readLine (c : Console) : Text × Console :=
  let (line, input) := Text.firstLine c.input
  (line, { c with input })

end Console

inductive LogLevel where
  | debug
  | info

def LogLevel.label : LogLevel → String
  | debug => "DEBUG"
  | info => "INFO"

/-- The time in nanoseconds, and the times that are told when the clock is looked at again. -/
structure Clock where
  now : Nat
  later : List Nat
  deriving DecidableEq

namespace Clock

instance {n : Nat} : OfNat Clock n := ⟨⟨n, []⟩⟩

/-- The clock when it is looked at again; the last time stays. -/
def tick (c : Clock) : Clock :=
  match c.later with
  | [] => c
  | now :: later => ⟨now, later⟩

end Clock

/-- The state of an interpreter. -/
structure Machine where
  program : Program
  «variables» : Variables
  stack : ControlStack Nat
  /-- the line numbers that a run follows -/
  address : List Int
  /-- the index in the address table of the line that comes next -/
  position : Nat
  /-- the line that a run took up last -/
  current : Option Int
  halted : Bool
  running : Bool
  generator : Generator
  clock : Clock
  /-- how many calls a statement may make beyond those that one without parentheses takes -/
  room : Nat
  console : Console
  deriving DecidableEq

namespace Machine

/-- A machine that has done nothing yet, and leaves no room yet. -/
def fresh (seed : Int) (clock : Clock) (console : Console) : Machine where
  program := Table.empty
  «variables» := Table.empty
  stack := []
  address := []
  position := 0
  current := none
  halted := false
  running := false
  generator := Generator.ofSeed seed
  clock := clock
  room := 0
  console := console

def write (m : Machine) (text : String) : Machine :=
  { m with console := m.console.write text }

def writeError (m : Machine) (text : String) : Machine :=
  { m with console := m.console.writeError text }

def log (m : Machine) (level : LogLevel) (source : String) (message : String) : Machine :=
  if m.console.verbose then m.writeError s!"{level.label} {source}: {message}\n" else m

def assign (m : Machine) (name : Text) (value : Number) : Machine :=
  { m with «variables» := m.variables.insert name value }

def clear (m : Machine) : Machine :=
  { m with «variables» := Table.empty }

def new (m : Machine) : Machine :=
  { m with program := Table.empty }

def storeLine (m : Machine) (number : Int) (text : Text) : Machine :=
  { m with program := m.program.store number text }

def deleteLine (m : Machine) (number : Int) : Except Cause Machine :=
  (m.program.delete number).map fun program => { m with program }

end Machine

end NumberedBasic
