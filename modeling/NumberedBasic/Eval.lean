import NumberedBasic.Builtin
import NumberedBasic.Cursor
import NumberedBasic.Variables

/-! # Evaluation

An evaluation reads the variables and the clock, and moves along the line and
along the random numbers. It changes nothing else, and a failure keeps the place
it had reached. What nests takes room, which a reading counts in calls.
-/

namespace NumberedBasic

/-- What evaluation reads. The clock counts nanoseconds. -/
structure Context where
  «variables» : Variables
  clock : Nat

/-- What evaluation moves along, and how many calls may still be made inside each other. -/
structure Reading where
  cursor : Cursor
  generator : Generator
  room : Nat
  deriving DecidableEq

abbrev Eval := ReaderT Context (EStateM Cause Reading)

namespace Eval

variable {α : Type}

def scan (matcher : Cursor → α × Cursor) : Eval α := fun _ reading =>
  let (value, cursor) := matcher reading.cursor
  .ok value { reading with cursor }

def scanStrictly (matcher : Cursor → Except Cause α × Cursor) : Eval α := fun _ reading =>
  match matcher reading.cursor with
  | (.ok value, cursor) => .ok value { reading with cursor }
  | (.error cause, cursor) => .error cause { reading with cursor }

def failNear (cause : Text → Cause) : Eval α := fun _ reading =>
  .error (cause reading.cursor.rest) reading

def require (found : Bool) (cause : Text → Cause) : Eval Unit :=
  if found then pure () else failNear cause

def byRoom (e : Nat → Eval α) : Eval α := fun context reading =>
  e reading.room context reading

/-- Takes room for two more calls. -/
def descend : Eval Unit := fun _ reading =>
  .ok () { reading with room := reading.room - 2 }

/-- How many characters are ahead, which bounds every repetition on the line. -/
def remaining : Eval Nat := fun _ reading =>
  .ok reading.cursor.rest.length reading

def literal (expected : Text) : Eval Bool :=
  scan (Cursor.literal expected)

def keyword (expected : Text) : Eval Bool :=
  scan (Cursor.keyword expected)

def skipBlanks : Eval Unit :=
  scan fun c => ((), c.skipBlanks)

def skipLine : Eval Unit :=
  scan fun c => ((), c.finish)

def atEnd : Eval Bool :=
  scan Cursor.atEnd

def demand (expected : Text) : Eval Unit :=
  scanStrictly (Cursor.demand expected)

def name : Eval Text :=
  scanStrictly Cursor.demandIdentifier

def ofExcept : Except Cause α → Eval α
  | .ok value => pure value
  | .error cause => throw cause

def valueOf? (name : Text) : Eval (Option Number) := fun context reading =>
  .ok (context.variables.get? name) reading

def call (b : Builtin) (arguments : List Number) : Eval Number := fun context reading =>
  match b.call context.clock arguments reading.generator with
  | (.ok value, generator) => .ok value { reading with generator }
  | (.error cause, generator) => .error cause { reading with generator }

/-- Further items, each behind a separator, at most as many as given. -/
def further (separator : Eval Bool) (item : Eval α) : Nat → Eval (List α)
  | 0 => pure []
  | count + 1 => do
    if ← separator then
      let first ← item
      return first :: (← further separator item count)
    else return []

/-- One or more items with a literal between them. -/
def separatedBy (separator : Text) (item : Eval α) : Eval (List α) := do
  let first ← item
  return first :: (← further (literal separator) item (← remaining))

end Eval

end NumberedBasic
