import NumberedBasic.Directory
import NumberedBasic.Run

/-! # Sessions

A session is a machine beside a directory. Loading ingests the lines of a file
one after the other, up to the first that fails or that cannot be decoded, and saving
writes the listing.
-/

namespace NumberedBasic

/-- Why a request of a session failed. -/
inductive Trouble where
  | cause (cause : Cause)
  | file (error : FileError) (path : Path)
  | invalidName
  | undecodable
  | unwritable
  deriving DecidableEq, Repr

/-- A machine beside a directory, with the room that is left for a statement when as many
calls lead to it as at the most. -/
structure Session where
  machine : Machine
  directory : Directory
  room : Nat

namespace Machine

/-- Ingests lines up to the first that fails, skipping blank ones. -/
def ingestAll : Machine → List Text → Machine × Option Cause
  | m, [] => (m, none)
  | m, line :: lines =>
    if line.isEmptyLine then ingestAll m lines
    else
      match m.ingest line with
      | (m, none) => ingestAll m lines
      | (m, some cause) => (m, some cause)

def logLoaded (m : Machine) (lines : Nat) (name : Text) : Machine :=
  m.log .info logSource s!"loaded {lines} lines from {String.ofList name}"

def saveLogSource : String := "linebasic.program"

def logSaved (m : Machine) (name : Text) : Machine :=
  m.log .info saveLogSource s!"saved {m.program.size} lines to {String.ofList name}"

end Machine

namespace Session

def update (s : Session) (f : Machine → Machine) : Session :=
  { s with machine := f s.machine }

/-- Leaves a statement the session's room and that for calls which do not lead to it. -/
def allow (s : Session) (calls : Nat) : Session :=
  s.update fun m => { m with room := s.room + calls }

def loadFrom (s : Session) (path : Path) : Session × Except Trouble Nat :=
  match s.directory.read path with
  | .error error => (s, .error (.file error path))
  | .ok content =>
    let lines := content.lines
    match s.machine.ingestAll lines, content with
    | (m, some cause), _ => ({ s with machine := m }, .error (.cause cause))
    | (m, none), .binary _ => ({ s with machine := m }, .error .undecodable)
    | (m, none), .text _ =>
      ({ s with machine := m.logLoaded lines.length path.text }, .ok lines.length)

def path? (name : Text) : Except Trouble Path :=
  if name.contains '\x00' then .error .invalidName else .ok (Path.ofText name)

def load (s : Session) (name : Text) : Session × Except Trouble Nat :=
  match path? name with
  | .error trouble => (s, .error trouble)
  | .ok path => s.loadFrom path

/-- Saves the program where a path leads; the result is the text that was written. The
lines before a number that cannot be written are written nonetheless. -/
def saveTo (s : Session) (path : Path) : Session × Except Trouble Text :=
  let text := s.machine.program.fileText
  match s.directory.write path text with
  | .error error => (s, .error (.file error path))
  | .ok directory =>
    if s.machine.program.isWritable then
      ({ s with machine := s.machine.logSaved path.text, directory }, .ok text)
    else ({ s with directory }, .error .unwritable)

def save (s : Session) (name : Text) : Session × Except Trouble Text :=
  match path? name with
  | .error trouble => (s, .error trouble)
  | .ok path => s.saveTo path

end Session

end NumberedBasic
