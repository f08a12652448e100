import Mathlib.Data.Nat.Digits.Defs
import NumberedBasic.CommandLine
import NumberedBasic.Proofs.CommandLine.Arguments
import NumberedBasic.Proofs.CommandLine.Path
import NumberedBasic.Proofs.Run.Output
import NumberedBasic.Proofs.Run.Time
import NumberedBasic.Proofs.Session.Containment

/-! # A program from the command line

The command line loads a program from its absolute path and runs it. It does and writes what two
lines at the prompt do, except that it does not say that the file is loaded, and its status is
what becomes of the errors. Fewer calls lead to its lines, so that the prompt may lack room where it
does not.
-/

namespace NumberedBasic

namespace Session

variable {s s' : Session} {name : Text} {p q : Path} {content : Content} {turns : Nat}

def loadLine (name : Text) : Text :=
  ['l', 'o', 'a', 'd', ' ', '"'] ++ name ++ ['"']

def runLine : Text :=
  ['r', 'u', 'n']

section Lines

variable (name : Text)

theorem trimStart_loadLine : (loadLine name).trimStart = loadLine name :=
  List.dropWhile_cons_of_neg (by decide +kernel)

theorem loadLine_word : (loadLine name).takeWhile Text.isLetter = ['l', 'o', 'a', 'd'] ∧
    (loadLine name).dropWhile Text.isLetter = ' ' :: '"' :: (name ++ ['"']) := by
  have split : loadLine name = ['l', 'o', 'a', 'd'] ++ ' ' :: '"' :: (name ++ ['"']) := rfl
  have letters : ['l', 'o', 'a', 'd'].all Text.isLetter = true := by decide +kernel
  have blank : ∀ c ∈ (' ' :: '"' :: (name ++ ['"'])).head?, Text.isLetter c = false := by
    rintro _ ⟨⟩
    decide +kernel
  rw [split]
  exact ⟨Text.takeWhile_run (List.all_eq_true.mp letters) blank,
    Text.dropWhile_run (List.all_eq_true.mp letters) blank⟩

theorem of_loadLine : LineKind.of (loadLine name) = .command .load := by
  refine LineKind.of_eq_command_iff.mpr ⟨?_, ?_⟩
  · have digit : Text.isDigit 'l' = false := by decide +kernel
    rw [Machine.isNumbered, trimStart_loadLine]
    exact digit
  · rw [Text.leadingWord, trimStart_loadLine, (loadLine_word name).1]
    decide +kernel

theorem behindWord_loadLine : (loadLine name).behindWord = '"' :: (name ++ ['"']) := by
  rw [Text.behindWord, trimStart_loadLine, (loadLine_word name).2, Text.trimStart,
    List.dropWhile_cons_of_pos (by decide +kernel), List.dropWhile_cons_of_neg (by decide +kernel)]

end Lines

theorem work_loadLine (valid : '\x00' ∉ name) (unquoted : '"' ∉ name) :
    s.work turns (loadLine name) = some (afterFile "File loaded" ((s.allow 0).load name)) := by
  have quoted : Quotes (loadLine name).behindWord name :=
    ⟨[], behindWord_loadLine name, unquoted⟩
  have named : path? name = .ok (Path.ofText name) := by simp [path?, valid]
  rw [work, of_loadLine]
  refine congrArg some ?_
  rw [atFile_named (Text.trimStart_behindWord _) quoted valid]
  simp only [load, named]

theorem work_runLine (s : Session) :
    s.work turns runLine = ((s.allow 1).machine.runFor turns).map s.afterRun := by
  have kind : LineKind.of runLine = .command .run := by decide +kernel
  simp only [work, kind, obey]

/-- Where nothing is logged, it makes no difference by which path a file is loaded. -/
theorem loadFrom_congr (read : s.directory.read p = .ok content)
    (read' : s.directory.read q = .ok content) (quiet : s.machine.console.verbose = false) :
    s.loadFrom p = s.loadFrom q := by
  have talks := s.machine.ingestAll_talks content.lines
  rcases ingested : s.machine.ingestAll content.lines with ⟨m, _ | cause⟩
  · rw [ingested] at talks
    have silent : m.console.verbose = false := talks.verbose.trans quiet
    have unlogged (name : Text) : m.logLoaded content.lines.length name = m :=
      if_neg (by simp [silent])
    cases content <;> simp only [loadFrom, read, read', ingested, unlogged]
  · simp only [loadFrom, read, read', ingested]

theorem loadFrom_text {text : Text} (read : s.directory.read p = .ok (.text text)) :
    s.loadFrom p = match s.machine.ingestAll text.lines with
      | (m, some cause) => ({ s with machine := m }, .error (.cause cause))
      | (m, none) => ({ s with machine := m.logLoaded text.lines.length p.text },
        .ok text.lines.length) := by
  simp only [loadFrom, read, Content.lines]
  rcases s.machine.ingestAll text.lines with ⟨m, _ | cause⟩ <;> rfl

def bare (s : Session) : Session :=
  { s.update Machine.bare with room := 0 }

/-- What a run from the command line leads to, beside the line at the prompt that runs the same
program. Both write the same behind what was written before, unless the prompt lacks room. -/
inductive RunAlike (s : Session) (turns : Nat) (output : String) :
    Option (Session × CommandLine.Exit) → Prop where
  | unfinished (line : s.handle turns runLine = none) : RunAlike s turns output none
  | ended {final : Machine} {failure : Option Failure} {after ending : Session} {written : String}
      (run : (s.allow 1).machine.runFor turns = some (final, failure))
      (line : s.handle turns runLine = some (after, .more))
      (writes : after.machine.console.output = s.machine.console.output ++ written)
      (main : ending.bare =
        ({ after with machine.console.output := output ++ written } : Session).bare) :
      RunAlike s turns output (some (ending, .status (if failure = none then 0 else 1)))
  | lacking (lacks : LacksRoom ((s.allow 1).machine.runFor turns))
      (main : Option (Session × CommandLine.Exit)) : RunAlike s turns output main

/-- What a file from the command line leads to, beside the two lines at the prompt that load it
and run it. Either a line of the file fails and nothing runs, or the file is loaded and run, unless
the prompt lacks room for one of its lines. -/
inductive ProgramAlike (s : Session) (name : Text)
    (main : Nat → Option (Session × CommandLine.Exit)) : Prop where
  | failed {before loaded : Session} {cause : Cause}
      (load : (s.allow 0).load name = (before, .error (.cause cause)))
      (line : ∀ turns, s.handle turns (loadLine name) = some (loaded, .more))
      (reported : loaded = before.update (·.writeError (cause.message ++ "\n")))
      (main : ∀ turns, ∃ ending, main turns = some (ending, .status 1) ∧
        ending.bare = loaded.bare)
  | loaded {before loaded : Session} {lines : Nat}
      (load : (s.allow 0).load name = (before, .ok lines))
      (line : ∀ turns, s.handle turns (loadLine name) = some (loaded, .more))
      (said : loaded = before.update (·.write "File loaded\n"))
      (main : ∀ turns, loaded.RunAlike turns before.machine.console.output (main turns))
  | lacking {before : Session}
      (load : (s.allow 0).load name = (before, .error (.cause .tooComplex)))

end Session

namespace CommandLine

open Session

variable {turns room below : Nat} {clock clock' : Clock} {s : Session} {d : Directory}
  {input argument name text : Text} {seed : Int} {timeless : Prop}

def ofRun (s : Session) (ended : Machine × Option Failure) : Session × Exit :=
  afterRun s ended.1 ended.2

theorem runProgram_eq (valid : '\x00' ∉ name) (placed : s.directory.Leads s.directory.location)
    (read : s.directory.read (Path.ofText name) = .ok (.text text))
    (short : (s.directory.absolute (Path.ofText name)).size ≤ Directory.pathLimit)
    (quiet : s.machine.console.verbose = false) : runProgram turns s name =
      match (s.allow 3).loadFrom (Path.ofText name) with
      | (s, .error trouble) => some (afterTrouble s trouble)
      | (s, .ok _) => ((s.allow 4).machine.runFor turns).map (ofRun s) := by
  have named : path? name = .ok (Path.ofText name) := by simp [path?, valid]
  have absolute := Directory.read_absolute placed read short
  have found : s.directory.hasFile (s.directory.absolute (Path.ofText name)) = .ok true := by
    simp only [Directory.hasFile, absolute]
  have same : (s.allow 3).loadFrom (s.directory.absolute (Path.ofText name)) =
      (s.allow 3).loadFrom (Path.ofText name) := loadFrom_congr absolute read quiet
  simp only [runProgram, named, found, same]
  rfl

theorem run_seeded (given : Seed.Given argument seed) (named : name.head? ≠ some Role.dash) :
    run turns clock room d (.ofInput input) [Text.ofString "--seed", argument, name] =
      runProgram turns ⟨.fresh seed clock (.ofInput input), d, room⟩ name := by
  have arguments := read_seeded given.plain named
  rw [given.read] at arguments
  simp only [run, plan, arguments]
  rfl

/-- A run with more room is the same if the prompt has written some more before it. -/
theorem ofRun_alike {before : Session} (turns : Nat) (text : String)
    (directory : s.directory = before.directory)
    (ampler : Machine.Ampler timeless (before.allow 1).machine (s.allow 4).machine)
    (untimed : timeless → before.machine.program.Untimed)
    (writable : before.machine.program.isWritable = true) :
    (before.update (·.write text)).RunAlike turns before.machine.console.output
      (((s.allow 4).machine.runFor turns).map (ofRun s)) := by
  let said := before.update (·.write text)
  have line : said.handle turns runLine = _ := said.handle_eq turns runLine
  rw [said.work_runLine] at line
  have alike {m m' : Machine} (shown : m.bare = m'.bare) :
      ({ s with machine := m' } : Session).bare = ({ before with machine := m } : Session).bare :=
    congrArg₂ (fun m d => (⟨m, d, 0⟩ : Session)) shown.symm directory
  have both := ampler.runFor untimed turns
  generalize (s.allow 4).machine.runFor turns = ends at both ⊢
  rcases (before.allow 1).machine.runFor_write turns text with
    ⟨here, behind⟩ | ⟨final, failure, here, behind⟩
  · have run : (said.allow 1).machine.runFor turns = none := behind
    rw [run] at line
    rw [here] at both
    rcases both with both | ⟨_, _, ended, -⟩
    · cases both
      exact .unfinished line
    · cases ended
  · have run : (said.allow 1).machine.runFor turns = _ := behind
    rw [run] at line
    rw [here] at both
    rcases both with both | ⟨_, f, ended, complex⟩
    · cases both with | @some _ r' same
      obtain ⟨ending, _⟩ := r'
      obtain ⟨shown, rfl⟩ := same
      cases failure with
      | none =>
        exact .ended run line rfl (alike shown)
      | some failure =>
        obtain ⟨message, told⟩ := Machine.exists_message_of_runFor (m := (before.allow 1).machine)
          writable here
        have reported : ofRun s (ending, some failure) =
            ({ s with machine := ending.writeErrorLine message }, .status 1) := by
          simp only [ofRun, afterRun, Machine.reportRun, told]
          rfl
        simp only [Option.map_some, Session.afterRun, Upshot.ofFailure?, told, Option.elim_some]
          at line
        rw [Option.map_some, reported]
        exact .ended run line rfl (alike (congrArg (·.writeErrorLine message) shown))
    · cases ended
      exact .lacking ⟨_, f, run, complex⟩ _

/-- The command line and the prompt run a file alike, if the clock tells both the same or no line of
the file shows the time. The room of the command line is that of a prompt which it shows, and a
prompt that is called from the same place has two more. -/
theorem file_runs_alike (given : Seed.Given argument seed) (named : name.head? ≠ some Role.dash)
    (valid : '\x00' ∉ name) (unquoted : '"' ∉ name)
    (placed : d.Leads d.location) (read : d.read (Path.ofText name) = .ok (.text text))
    (short : (d.absolute (Path.ofText name)).size ≤ Directory.pathLimit)
    (deeper : below ≤ room + 3)
    (times : clock' = clock ∨ ∀ line ∈ text.lines, Machine.UntimedLine line) :
    ProgramAlike ⟨.fresh seed clock (.ofInput input), d, below⟩ name fun turns =>
      run turns clock' room d (.ofInput input) [Text.ofString "--seed", argument, name] := by
  let s : Session := ⟨.fresh seed clock (.ofInput input), d, below⟩
  let t : Session := ⟨.fresh seed clock' (.ofInput input), d, room⟩
  have main (turns : Nat) :
      run turns clock' room d (.ofInput input) [Text.ofString "--seed", argument, name] = _ :=
    (run_seeded given named).trans (runProgram_eq (s := t) valid placed read short rfl)
  have line (turns : Nat) : s.handle turns (loadLine name) = _ :=
    (s.handle_eq turns _).trans (congrArg (Option.map report) (work_loadLine valid unquoted))
  have path : (s.allow 0).load name = (s.allow 0).loadFrom (Path.ofText name) := by
    simp [load, path?, valid]
  have start : Machine.Ampler (∀ line ∈ text.lines, Machine.UntimedLine line)
      (s.allow 0).machine (t.allow 3).machine := ⟨room + 3, clock', rfl, deeper, times.symm⟩
  have both := start.ingestAll id
  have load := path.trans (loadFrom_text (s := s.allow 0) read)
  have load' := loadFrom_text (s := t.allow 3) read
  have kind {cause : Cause} (failed : ((s.allow 0).machine.ingestAll text.lines).2 = some cause) :
      cause.kind ≠ .conversion := Machine.ingestAll_kind failed
  have untimed (still : ∀ line ∈ text.lines, Machine.UntimedLine line) :
      ((s.allow 0).machine.ingestAll text.lines).1.program.Untimed :=
    Machine.ingestAll_untimed (by rintro _ _ ⟨⟩) still
  have writable := Machine.ingestAll_writable (m := (s.allow 0).machine) rfl text.lines
  generalize (s.allow 0).machine.ingestAll text.lines = r at *
  generalize (t.allow 3).machine.ingestAll text.lines = r' at *
  obtain ⟨m, _⟩ := r
  obtain ⟨m', cause⟩ := r'
  rcases both with ⟨ampler, rfl⟩ | rfl
  · cases cause with
    | some cause =>
      refine .failed load (fun turns => ?_) rfl fun turns => ?_
      · rw [line, load]
        simp only [afterFile, Upshot.ofTrouble_cause (kind rfl)]
        rfl
      · rw [main, load']
        exact ⟨_, rfl, congrArg (fun m => (⟨m.writeErrorLine cause.message, d, 0⟩ : Session))
          ampler.bare_eq.symm⟩
    | none =>
      refine .loaded load (fun turns => ?_) rfl fun turns => ?_
      · rw [line, load]
        rfl
      · have kept : (m.logLoaded text.lines.length (Path.ofText name).text).program =
          m.program := by
          obtain ⟨errors, logged⟩ := m.exists_log_eq .info Machine.logSource _
          exact congrArg (·.program) logged
        rw [main, load']
        exact ofRun_alike turns _ rfl ((ampler.log _ _ _).allow (Nat.succ_le_succ deeper))
          (kept ▸ untimed) (kept ▸ writable)
  · exact .lacking load

/-- A program that fails while it runs, after a line of it was executed at once. The prompt is
called from the same place, and the time is another one. -/
theorem failing_program_alike :
    let text := Text.ofString "PRINT 1\n20 NEXT I\n"
    let d : Directory := ⟨[], Table.empty.insert [['p']] (.text text)⟩
    let main (turns : Nat) :=
      run turns 5 2 d (.ofInput []) [Text.ofString "--seed", ['-', '7'], ['p']]
    ProgramAlike ⟨.fresh (-7) 0 (.ofInput []), d, 2 + 2⟩ ['p'] main ∧
      ∃ s, main 5 = some (s, .status 1) ∧ s.machine.console.output = "1\n" ∧
        s.machine.console.errors = "Variable not found: i in line 20, column 6\n" := by
  intro text d main
  have given : Seed.Given ['-', '7'] (-7) := ⟨by decide +kernel, by decide +kernel⟩
  have placed : d.Leads d.location := ⟨by decide +kernel, nofun, nofun⟩
  have read : d.read (Path.ofText ['p']) = .ok (.text text) := by decide +kernel
  have short : (d.absolute (Path.ofText ['p'])).size ≤ Directory.pathLimit := by decide +kernel
  have still (text : Text) (unread : ∀ n ≤ text.length,
      Cursor.readsClock ⟨n, text.drop n⟩ = false) : Statement.Timeless text :=
    .of_start (Cursor.timeless_start unread)
  have untimed : ∀ line ∈ text.lines, Machine.UntimedLine line := by
    have lines : text.lines = [Text.ofString "PRINT 1", Text.ofString "20 NEXT I"] := by
      decide +kernel
    rw [lines]
    refine List.forall_mem_cons.mpr ⟨⟨fun _ => still _ (by decide +kernel), nofun⟩,
      List.forall_mem_singleton.mpr ⟨nofun, fun number text stored => ?_⟩⟩
    obtain ⟨-, rfl⟩ := Edit.store.inj (List.mem_singleton.mp stored)
    exact still _ (by decide +kernel)
  have outcome : (main 5).any (fun ended => decide (ended.2 = .status 1) &&
      (ended.1.machine.console.output == "1\n" && ended.1.machine.console.errors ==
        "Variable not found: i in line 20, column 6\n")) = true := by
    decide +kernel
  obtain ⟨⟨s, exit⟩, ended, facts⟩ := (Option.any_eq_true _ _).mp outcome
  simp only [Bool.and_eq_true, decide_eq_true_eq, beq_iff_eq] at facts
  obtain ⟨rfl, output, errors⟩ := facts
  exact ⟨file_runs_alike given (by decide) (by decide) (by decide) placed read short (by decide)
    (.inr untimed), s, ended, output, errors⟩

theorem run_long_seed (long : 10 ^ integerDigits ≤ seed.natAbs)
    (named : name.head? ≠ some Role.dash) :
    run turns clock room d (.ofInput input) [Text.ofString "--seed", integerText seed, name] =
      some (⟨(Machine.fresh 0 clock (.ofInput input)).writeError
        (Misuse.notInteger (integerText seed)).report, d, room⟩, .status 2) := by
  have arguments := read_seeded (Seed.plain_integerText seed) named
  rw [Seed.read_integerText_long long] at arguments
  simp only [run, plan, arguments]
  rfl

theorem run_long_path (given : Seed.Given argument seed) (named : name.head? ≠ some Role.dash)
    (valid : '\x00' ∉ name)
    (long : Directory.pathLimit < (d.absolute (Path.ofText name)).size) :
    run turns clock room d (.ofInput input) [Text.ofString "--seed", argument, name] =
      some (⟨.fresh seed clock (.ofInput input), d, room⟩,
        .trouble (.file .nameTooLong (d.absolute (Path.ofText name)))) := by
  have path : path? name = .ok (Path.ofText name) := by simp [path?, valid]
  rw [run_seeded given named]
  simp only [runProgram, path, Directory.hasFile, Directory.read_of_long long]

/-- What the prompt has written after it has loaded and run a file. -/
def typed (turns : Nat) (s : Session) (name : Text) : Option (String × String) := do
  let loaded ← s.handle turns (loadLine name)
  let after ← loaded.1.handle turns runLine
  return (after.1.machine.console.output, after.1.machine.console.errors)

/-- The prompt runs a file with any seed and at any place. The command line takes no seed with
too many digits, and it loads no file whose absolute path is too long. A file that reads the clock
tells them apart as well, and so does a line for which the prompt lacks room. -/
theorem file_runs_unlike :
    let file (text : String) : Directory :=
      ⟨[], Table.empty.insert [['p']] (.text (Text.ofString text))⟩
    let folder : List Text := List.replicate 16 (List.replicate 255 'a')
    let deep : Directory :=
      ⟨folder, Table.empty.insert (folder ++ [['p']]) (.text (Text.ofString "10 PRINT 1\n"))⟩
    let typed (d : Directory) (seed : Int) (clock : Clock) (room : Nat) :=
      typed 3 ⟨.fresh seed clock (.ofInput []), d, room + 2⟩ ['p']
    let main (turns : Nat) (d : Directory) (seed : Int) (clock : Clock) (room : Nat) :=
      run turns clock room d (.ofInput []) [Text.ofString "--seed", integerText seed, ['p']]
    (typed (file "10 PRINT 1\n") (10 ^ integerDigits) 0 0 = some ("File loaded\n1\n", "") ∧
        ∀ turns, ∃ s, main turns (file "10 PRINT 1\n") (10 ^ integerDigits) 0 0 =
          some (s, .status 2)) ∧
      (deep.Leads deep.location ∧ typed deep 0 0 0 = some ("File loaded\n1\n", "") ∧
        ∀ turns, ∃ s path, main turns deep 0 0 0 = some (s, .trouble (.file .nameTooLong path))) ∧
      (typed (file "10 PRINT timer\n") 0 0 0 = some ("File loaded\n0\n", "") ∧
        ∃ s, main 3 (file "10 PRINT timer\n") 0 1000000000 0 = some (s, .status 0) ∧
          s.machine.console.output = "1\n") ∧
      typed (file "10 PRINT (1)\n") 0 0 4 =
          some ("File loaded\n", "Expression too complex in line 10, column 8\n") ∧
        ∃ s, main 3 (file "10 PRINT (1)\n") 0 0 4 = some (s, .status 0) ∧
          s.machine.console.output = "1\n" := by
  intro file folder deep typed main
  have digits : 10 ^ integerDigits ≤ ((10 : Int) ^ integerDigits).natAbs := by
    simp [Int.natAbs_pow]
  have given : Seed.Given (integerText 0) 0 := Seed.given_integerText (Nat.pow_pos (by decide))
  have long : Directory.pathLimit < (deep.absolute (Path.ofText ['p'])).size := by
    have length : Directory.pathLimit < (deep.absolute (Path.ofText ['p'])).text.length := by
      decide +kernel
    exact Nat.lt_of_lt_of_le length (Path.length_text_le_size _)
  have named {name : Text} (hn : name ∈ folder) :
      Directory.isTooLong name = false ∧ name ≠ Path.parent := by
    rw [List.eq_of_mem_replicate hn]
    decide +kernel
  have printed {ended : Option (Session × Exit)} (outcome : ended.any (fun ended =>
      decide (ended.2 = .status 0) && ended.1.machine.console.output == "1\n") = true) :
      ∃ s, ended = some (s, .status 0) ∧ s.machine.console.output = "1\n" := by
    obtain ⟨⟨s, exit⟩, rfl, facts⟩ := (Option.any_eq_true _ _).mp outcome
    simp only [Bool.and_eq_true, decide_eq_true_eq, beq_iff_eq] at facts
    obtain ⟨rfl, output⟩ := facts
    exact ⟨s, rfl, output⟩
  refine ⟨⟨by decide +kernel, fun turns => ⟨_, run_long_seed digits (by decide)⟩⟩,
    ⟨⟨by decide +kernel, fun _ hn => (named hn).1, fun _ hn => (named hn).2⟩, by decide +kernel,
      fun turns => ⟨_, _, run_long_path given (by decide) (by decide) long⟩⟩,
    ⟨by decide +kernel, printed (by decide +kernel)⟩, by decide +kernel,
    printed (by decide +kernel)⟩

end CommandLine

end NumberedBasic
