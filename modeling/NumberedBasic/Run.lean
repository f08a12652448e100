import NumberedBasic.Statement

/-! # Running programs

A run takes a snapshot of the line numbers and executes the lines one by one
until it passes the last one, is halted or fails. A failure is located at the
line that was taken up and the column that it had reached.
-/

namespace NumberedBasic

namespace Machine

def logSource : String := "linebasic.core"

def logRun (m : Machine) (message : String) : Machine :=
  m.log .debug logSource message

def look (m : Machine) : Machine :=
  { m with clock := m.clock.tick }

/-- Executes one statement outside a run. -/
def execute (m : Machine) (text : Text) : Machine × Option Cause :=
  match Statement.execute (.start m.look text) with
  | .ok _ s => (s.machine, none)
  | .error cause s => (s.machine, some cause)

/-- Stores a line that begins with a number, if it is not too large. -/
def ingestNumbered (m : Machine) (text : Text) : Machine × Option Cause :=
  match (Cursor.start text).lineNumber with
  | (.ok (some number), c) => (m.storeLine number c.rest, none)
  | (.ok none, _) => (m, none)
  | (.error cause, _) => (m, some cause)

/-- Stores a line whose first character is a digit, and executes any other line. -/
def ingest (m : Machine) (text : Text) : Machine × Option Cause :=
  let text := text.trimStart
  if text.head?.any Text.isDigit then m.ingestNumbered text else m.execute text

/-- What one turn of a run leads to. -/
inductive Turn where
  | going (m : Machine)
  | ended (m : Machine) (failure : Option Failure)

def Turn.machine : Turn → Machine
  | going m => m
  | ended m _ => m

def finishRun (m : Machine) : Machine :=
  { m with running := false }.logRun
    (if m.halted then s!"stopped before position {m.position}" else "run finished")

/-- Leaves the run with a failure at a column of a line. A failure that cannot be written
leaves no entry in the log. -/
def abortRun (m : Machine) (cause : Cause) (line : Int) (column : Nat) : Turn :=
  let failure : Failure := ⟨cause, line, column⟩
  let m := { m with running := false }
  .ended (failure.message?.elim m fun message => m.logRun s!"run aborted: {message}")
    (some failure)

def logLine (m : Machine) (number : Int) : Machine :=
  if isWritable number then m.logRun s!"line {String.ofList (integerText number)}" else m

/-- Takes up the line with a given number. -/
def taken (m : Machine) (number : Int) : Machine :=
  { m.look with current := some number, position := m.position + 1 }.logLine number

/-- Executes the line with a given number as the current one. -/
def executeLine (m : Machine) (number : Int) : Turn :=
  match m.program.get? number with
  | none => { m with current := some number }.abortRun (.lineMissing number) number 0
  | some text =>
    match Statement.execute (.start (m.taken number) text) with
    | .ok _ s => .going s.machine
    | .error cause s => s.machine.abortRun cause number s.cursor.column

/-- Executes the line at the machine's position, or ends the run. -/
def step (m : Machine) : Turn :=
  if m.halted then .ended m.finishRun none
  else
    match m.address[m.position]? with
    | none => .ended m.finishRun none
    | some number => m.executeLine number

/-- Takes turns until the run ends; nothing, if it does not end in the given number. -/
def turns : Nat → Machine → Option (Machine × Option Failure)
  | 0, _ => none
  | count + 1, m =>
    match m.step with
    | .going m => turns count m
    | .ended m failure => some (m, failure)

def resumed (m : Machine) : Machine :=
  { m with halted := false, running := true }

/-- Ready to begin with the first line of the program as it is now. -/
def restarted (m : Machine) : Machine :=
  let m := { m with address := m.program.lineNumbers, stack := [], position := 0 }
  (m.logRun s!"run: {m.address.length} lines").resumed

def continueFor (count : Nat) (m : Machine) : Option (Machine × Option Failure) :=
  turns count m.resumed

def runFor (count : Nat) (m : Machine) : Option (Machine × Option Failure) :=
  turns count m.restarted

end Machine

end NumberedBasic
