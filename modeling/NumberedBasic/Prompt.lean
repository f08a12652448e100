import NumberedBasic.Session

/-! # The command prompt

A line at the prompt is stored if it begins with a number, obeyed if it begins
with a command, and executed otherwise. Failures are reported on the error
channel; only a file name or a file that is not text, or a number that cannot be
written, ends the prompt.
-/

namespace NumberedBasic

/-- The words that the prompt obeys itself. -/
inductive Command where
  | bye
  | list
  | run
  | resume
  | clear
  | new
  | delete
  | load
  | save
  deriving DecidableEq, Repr

namespace Command

def all : List Command := [bye, list, run, resume, clear, new, delete, load, save]

def spelling : Command → Text
  | bye => ['b', 'y', 'e']
  | list => ['l', 'i', 's', 't']
  | run => ['r', 'u', 'n']
  | resume => ['c', 'o', 'n', 't', 'i', 'n', 'u', 'e']
  | clear => ['c', 'l', 'e', 'a', 'r']
  | new => ['n', 'e', 'w']
  | delete => ['d', 'e', 'l', 'e', 't', 'e']
  | load => ['l', 'o', 'a', 'd']
  | save => ['s', 'a', 'v', 'e']

def ofWord? (word : Text) : Option Command :=
  all.find? (·.spelling = word)

end Command

/-- What the prompt does after a line. -/
inductive Reply where
  | more
  | goodbye
  | escaped (trouble : Trouble)
  deriving DecidableEq, Repr

/-- What a line at the prompt leads to: a reply at once, a run to which less calls lead by
the given number, or work with a file. -/
inductive Request where
  | settled (m : Machine) (reply : Reply)
  | run (m : Machine) (calls : Nat)
  | load (path : Path)
  | save (path : Path)

/-- The machine that a request has changed; work with a file has changed none yet. -/
def Request.machine? : Request → Option Machine
  | settled m _ => some m
  | run m _ => some m
  | load _ => none
  | save _ => none

namespace Machine

def writeErrorLine (m : Machine) (message : String) : Machine :=
  m.writeError (message ++ "\n")

def report (m : Machine) : Trouble → Machine × Reply
  | .cause cause =>
    if cause.kind = .conversion then (m, .escaped .unwritable)
    else (m.writeErrorLine cause.message, .more)
  | .file error path =>
    (m.writeErrorLine (error.message ++ ": " ++ String.ofList path.text), .more)
  | .invalidName => (m, .escaped .invalidName)
  | .undecodable => (m, .escaped .undecodable)
  | .unwritable => (m, .escaped .unwritable)

def reportRun (m : Machine) : Option Failure → Machine × Reply
  | none => (m, .more)
  | some failure =>
    match failure.message? with
    | some message => (m.writeErrorLine message, .more)
    | none => m.report .unwritable

def refused (m : Machine) (trouble : Trouble) : Request :=
  let (m, reply) := m.report trouble
  .settled m reply

def settle : Machine × Option Cause → Request
  | (m, none) => .settled m .more
  | (m, some cause) => m.refused (.cause cause)

def requestDelete (m : Machine) (c : Cursor) : Request :=
  match c.lineNumber.1 with
  | .error cause => m.refused (.cause cause)
  | .ok none => m.refused (.cause .lineNumberExpected)
  | .ok (some number) =>
    match m.deleteLine number with
    | .error cause => m.refused (.cause cause)
    | .ok m => .settled m .more

def requestFile (m : Machine) (c : Cursor) (request : Path → Request) : Request :=
  match c.string.1 with
  | .error cause => m.refused (.cause cause)
  | .ok none => m.refused (.cause .stringExpected)
  | .ok (some name) =>
    match Session.path? name with
    | .error trouble => m.refused trouble
    | .ok path => request path

def requestList (m : Machine) : Request :=
  let m := m.write (String.ofList m.program.fileText)
  if m.program.isWritable then .settled m .more else m.refused .unwritable

def obey (m : Machine) (c : Cursor) : Command → Request
  | .bye => .settled m .goodbye
  | .list => m.requestList
  | .run => .run m.restarted 1
  | .resume => .run m.resumed 2
  | .clear => .settled m.clear .more
  | .new => .settled m.new .more
  | .delete => m.requestDelete c
  | .load => m.requestFile c .load
  | .save => m.requestFile c .save

def isNumbered (line : Text) : Bool :=
  line.trimStart.head?.any Text.isDigit

def greet (m : Machine) : Machine :=
  m.write "linebasic READY\n"

end Machine

namespace Session

/-- What a line typed at the prompt leads to. -/
def request (s : Session) (line : Text) : Request :=
  if line.isEmptyLine then .settled s.machine .more
  else if Machine.isNumbered line then Machine.settle (s.machine.ingest line)
  else
    let (word, c) := (Cursor.start line).skipBlanks.word
    match word.bind Command.ofWord? with
    | some command => s.machine.obey c command
    | none => Machine.settle ((s.allow 3).machine.execute line)

def reportFile {α : Type} (done : String) : Session × Except Trouble α → Session × Reply
  | (s, .ok _) => (s.update (·.write (done ++ "\n")), .more)
  | (s, .error trouble) =>
    let (m, reply) := s.machine.report trouble
    ({ s with machine := m }, reply)

/-- Carries out a request. A run that does not end in the given number of turns gives
nothing. -/
def fulfil (turns : Nat) (s : Session) : Request → Option (Session × Reply)
  | .settled m reply => some ({ s with machine := m }, reply)
  | .run m calls =>
    (Machine.turns turns { m with room := s.room + calls }).map fun (m, failure) =>
      let (m, reply) := m.reportRun failure
      ({ s with machine := m }, reply)
  | .load path => some (reportFile "File loaded" ((s.allow 0).loadFrom path))
  | .save path => some (reportFile "File saved" (s.saveTo path))

/-- Handles a line typed at the prompt. -/
def handle (turns : Nat) (s : Session) (line : Text) : Option (Session × Reply) :=
  s.fulfil turns (s.request line)

def prompt : String := "> "

def greet (s : Session) : Session :=
  s.update Machine.greet

/-- The next line of the input, without its end; nothing at the end of the input. -/
def nextLine (s : Session) : Option Text × Session :=
  let (line, console) := s.machine.console.readLine
  (if line.isEmpty then none else some line.dropLineEnd,
    s.update fun m => { m with console })

/-- Prompts for lines and handles them until the input ends, `bye` is said or trouble
escapes. Nothing, if more lines or turns than given are needed. -/
def loop : Nat → Session → Option (Session × Option Trouble)
  | 0, _ => none
  | count + 1, s =>
    match (s.update (·.write prompt)).nextLine with
    | (none, s) => some (s, none)
    | (some line, s) =>
      match s.handle count line with
      | none => none
      | some (s, .more) => loop count s
      | some (s, .goodbye) => some (s, none)
      | some (s, .escaped trouble) => some (s, some trouble)

end Session

end NumberedBasic
