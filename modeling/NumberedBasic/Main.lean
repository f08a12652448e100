import NumberedBasic.CommandLine
import Std.Time.DateTime.Timestamp

/-! # The program

The command line on the real console and the real files. A step that reads a line
is tried on an empty one first, to show its prompt before waiting for the line.
-/

namespace NumberedBasic.Terminal

def now : IO Nat := do
  return (← Std.Time.Timestamp.now).toNanosecondsSinceUnixEpoch.val.toNat

/-- The calls that a limit of a thousand leaves for a statement of a file that is loaded at
the prompt, beyond those that lead to it and those that it makes in any case. -/
def room : Nat := 973

def sessionOf (m : Machine) : Session :=
  ⟨m, ⟨[], Table.empty⟩, room⟩

def withInput (m : Machine) (input : Text) : Machine :=
  { m with console := ⟨input, "", "", m.console.verbose⟩ }

def present (c : Console) (output errors : String) : IO Unit := do
  let beyond (text shown : String) := String.ofList (text.toList.drop shown.length)
  (← IO.getStdout).putStr (beyond c.output output)
  (← IO.getStdout).flush
  (← IO.getStderr).putStr (beyond c.errors errors)

/-- Takes a step that reads at most one line. The second function finds the machine
that the step has changed. -/
def interact {α : Type} (m : Machine) (step : Machine → α) (machine? : α → Option Machine) :
    IO α := do
  let m := { m with clock := ⟨← now, []⟩ }
  let trial := step (withInput m ['\n'])
  match machine? trial with
  | none => return trial
  | some { console, .. } =>
    present console "" ""
    unless console.input.isEmpty do return trial
    let line ← (← IO.getStdin).getLine
    let result := step (withInput m line.toList)
    if let some m := machine? result then
      present m.console console.output console.errors
    return result

partial def takeTurns (m : Machine) : IO (Machine × Option Failure) := do
  match ← interact m Machine.step (some ·.machine) with
  | .going m => takeTurns m
  | .ended m failure => return (m, failure)

def apply (m : Machine) (f : Machine → Machine) : IO Machine := do
  let m := f (withInput m [])
  present m.console "" ""
  return m

def fileError : IO.Error → FileError
  | .noFileOrDirectory _ _ _ => .missing
  | .inappropriateType _ _ _ => .isFolder
  | .resourceExhausted _ _ _ => .nameTooLong
  | _ => .notFolder

def readFile (name : Text) : IO (Except FileError Content) := do
  try
    let octets ← IO.FS.readBinFile (String.ofList name)
    return .ok (.ofOctets octets.toList)
  catch error => return .error (fileError error)

def writeFile (name text : Text) : IO (Except FileError Unit) := do
  try
    IO.FS.writeFile (String.ofList name) (String.ofList text)
    return .ok ()
  catch error => return .error (fileError error)

partial def ingestAll (m : Machine) : List Text → IO (Machine × Option Cause)
  | [] => return (m, none)
  | line :: lines => do
    match ← interact m (·.ingestAll [line]) (some ·.1) with
    | (m, none) => ingestAll m lines
    | (m, some cause) => return (m, some cause)

def load (m : Machine) (path : Path) : IO (Machine × Option Trouble) := do
  match ← readFile path.text with
  | .error error => return (m, some (.file error path))
  | .ok content =>
    match ← ingestAll m content.lines, content with
    | (m, some cause), _ => return (m, some (.cause cause))
    | (m, none), .binary _ => return (m, some .undecodable)
    | (m, none), .text _ =>
      return (← apply m (·.logLoaded content.lines.length path.text), none)

def save (m : Machine) (path : Path) : IO (Machine × Option Trouble) := do
  match ← writeFile path.text m.program.fileText with
  | .error error => return (m, some (.file error path))
  | .ok () =>
    if m.program.isWritable then return (← apply m (·.logSaved path.text), none)
    else return (m, some .unwritable)

def afterFile (done : String) : Machine × Option Trouble → IO (Machine × Reply)
  | (m, none) => return (← apply m (·.write (done ++ "\n")), .more)
  | (m, some trouble) => do
    let (_, reply) := m.report trouble
    return (← apply m fun m => (m.report trouble).1, reply)

def report (m : Machine) (failure : Option Failure) : IO (Machine × Reply) := do
  return (← apply m fun m => (m.reportRun failure).1, (m.reportRun failure).2)

def fulfil : Machine → Request → IO (Machine × Reply)
  | _, .settled m reply => return (m, reply)
  | _, .run m calls => do
    let (m, failure) ← takeTurns (← apply m fun m => { m with room := room + calls })
    report m failure
  | m, .load path => do afterFile "File loaded" (← load m path)
  | m, .save path => do afterFile "File saved" (← save m path)

/-- Ends with an exit status; what nothing reports is shown here. -/
def exitWith : CommandLine.Exit → IO UInt32
  | .status status => return status.toUInt32
  | .trouble _ => do
    (← IO.getStderr).putStrLn "invalid file"
    return 1
  | .unseeded => do
    (← IO.getStderr).putStrLn "invalid seed"
    return 1

partial def promptLoop (m : Machine) : IO UInt32 := do
  let m ← apply m (·.write Session.prompt)
  let line ← (← IO.getStdin).getLine
  if line.isEmpty then return 0
  let line := Text.dropLineEnd line.toList
  let request ← interact m (fun m => (sessionOf m).request line) (·.machine?)
  match ← fulfil (sessionOf m |>.allow 0).machine request with
  | (m, .more) => promptLoop m
  | (_, .goodbye) => return 0
  | (_, .escaped trouble) => exitWith (.trouble trouble)

def runProgram (m : Machine) (name : Text) : IO UInt32 := do
  let location := Path.ofText (← IO.currentDir).toString.toList
  let directory : Directory := ⟨location.names, Table.empty⟩
  let path := directory.absolute (Path.ofText name)
  match ← readFile path.text with
  | .error _ =>
    let _ ← apply m (·.writeErrorLine (CommandLine.notFound path))
    return 2
  | .ok _ =>
    match ← load ((sessionOf m).allow 3).machine path with
    | (m, some trouble) =>
      let (_, exit) := CommandLine.afterTrouble (sessionOf m) trouble
      let _ ← apply m fun m => (CommandLine.afterTrouble (sessionOf m) trouble).1.machine
      exitWith exit
    | (m, none) =>
      let (m, failure) ← takeTurns (← apply ((sessionOf m).allow 4).machine Machine.restarted)
      let (_, exit) := CommandLine.afterRun (sessionOf m) m failure
      let _ ← report m failure
      exitWith exit

end NumberedBasic.Terminal

open NumberedBasic in
def main (arguments : List String) : IO UInt32 := do
  let clock : Clock := ⟨← Terminal.now, []⟩
  match CommandLine.plan clock (Console.ofInput []) (arguments.map String.toList) with
  | .exit m exit => do
    Terminal.present m.console "" ""
    Terminal.exitWith exit
  | .prompt m banner => do
    let m ← if banner then Terminal.apply m Machine.greet else pure m
    Terminal.promptLoop m
  | .program m name => Terminal.runProgram m name
