import NumberedBasic.CommandLine.Arguments
import NumberedBasic.Prompt

/-! # The command line

A command line with a program's name loads that file and runs it; one without
shows the prompt. The exit status is zero for success, one for a failure of the
program, and two for a wrong command line or a missing file.
-/

namespace NumberedBasic.CommandLine

def usage : String := "usage: python -m linebasic [options] [program.bas]\n"

def help : String :=
  usage ++ "\n" ++
    "positional arguments:\n" ++
    "  program        program to load and run\n" ++
    "\n" ++
    "options:\n" ++
    "  -h, --help     show this help message and exit\n" ++
    "  -v, --verbose  log each executed line\n" ++
    "  --seed SEED    seed for rnd\n" ++
    "  --no-banner    start the prompt silently\n"

def Misuse.report (misuse : Misuse) : String :=
  usage ++ "python -m linebasic: error: " ++ misuse.message ++ "\n"

/-- How a command line ends: with a status, with trouble that no report is made of, or
at once because there is nothing to seed the random numbers from. -/
inductive Exit where
  | status (status : Nat)
  | trouble (trouble : Trouble)
  | unseeded
  deriving DecidableEq, Repr

inductive Plan where
  | exit (m : Machine) (exit : Exit)
  | prompt (m : Machine) (banner : Bool)
  | program (m : Machine) (name : Text)

/-- The number that a seed stands for. -/
def Seed.number? (clock : Clock) : Seed → Option Int
  | .clock => some clock.now
  | .number n => some n
  | .nothing => none

/-- Plans what the arguments ask for, on a machine with the given clock and console. -/
def plan (clock : Clock) (console : Console) (arguments : List Text) : Plan :=
  let unused := Machine.fresh 0 clock console
  match read arguments with
  | .error misuse => .exit (unused.writeError misuse.report) (.status 2)
  | .ok .help => .exit (unused.write help) (.status 0)
  | .ok (.options options) =>
    match options.seed.number? clock with
    | none => .exit unused .unseeded
    | some seed =>
      let m := Machine.fresh seed clock { console with verbose := options.verbose }
      match options.program with
      | some name => .program m name
      | none => .prompt m options.banner

/-- The session after a run, and how its end is told. -/
def afterRun (s : Session) (m : Machine) (failure : Option Failure) : Session × Exit :=
  match m.reportRun failure with
  | (m, .escaped trouble) => ({ s with machine := m }, .trouble trouble)
  | (m, _) => ({ s with machine := m }, .status (if failure.isSome then 1 else 0))

/-- The session and status after trouble with loading. -/
def afterTrouble (s : Session) : Trouble → Session × Exit
  | .cause cause => (s.update (·.writeErrorLine cause.message), .status 1)
  | trouble => (s, .trouble trouble)

def notFound (path : Path) : String :=
  "linebasic: program not found: " ++ String.ofList path.text

/-- Loads and runs a program. A run that does not end in the given number of turns
gives nothing. -/
def runProgram (turns : Nat) (s : Session) (name : Text) : Option (Session × Exit) :=
  match Session.path? name with
  | .error trouble => some (s, .trouble trouble)
  | .ok path =>
    let path := s.directory.absolute path
    match s.directory.hasFile path with
    | .error error => some (s, .trouble (.file error path))
    | .ok false => some (s.update (·.writeErrorLine (notFound path)), .status 2)
    | .ok true =>
      match (s.allow 3).loadFrom path with
      | (s, .error trouble) => some (afterTrouble s trouble)
      | (s, .ok _) =>
        ((s.allow 4).machine.runFor turns).map fun (m, failure) => afterRun s m failure

/-- The status after the prompt has ended. -/
def afterPrompt : Option Trouble → Exit
  | none => .status 0
  | some trouble => .trouble trouble

/-- Does what the arguments ask for. -/
def run (turns : Nat) (clock : Clock) (room : Nat) (directory : Directory) (console : Console)
    (arguments : List Text) : Option (Session × Exit) :=
  match plan clock console arguments with
  | .exit m exit => some (⟨m, directory, room⟩, exit)
  | .prompt m banner =>
    let s : Session := ⟨m, directory, room⟩
    (Session.loop turns (if banner then s.greet else s)).map fun (s, trouble) =>
      (s, afterPrompt trouble)
  | .program m name => runProgram turns ⟨m, directory, room⟩ name

end NumberedBasic.CommandLine
