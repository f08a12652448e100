import NumberedBasic.Prompt
import NumberedBasic.Proofs.Run.Room
import NumberedBasic.Proofs.Session.Channel
import NumberedBasic.Proofs.Session.Coherence

/-! # What a line at the prompt asks for

The first word of a line and its first character decide what kind of line it is. Each kind
asks for one piece of work, and a problem that the work meets is reported when it is done.
-/

namespace NumberedBasic

namespace Text

def leadingWord (line : Text) : Text :=
  lower (line.trimStart.takeWhile isLetter)

/-- What follows the leading word and the blanks behind it. -/
def behindWord (line : Text) : Text :=
  trimStart (line.trimStart.dropWhile isLetter)

theorem trimStart_behindWord (line : Text) : line.behindWord.trimStart = line.behindWord :=
  trimStart_trimStart _

end Text

namespace Cursor

variable {c d : Cursor}

theorem lineNumber_congr (h : c.skipBlanks.rest = d.skipBlanks.rest) :
    c.lineNumber.1 = d.lineNumber.1 := by
  simp only [lineNumber, h]
  split
  · rfl
  · split <;> rfl

theorem string_congr (h : c.skipBlanks.rest = d.skipBlanks.rest) : c.string.1 = d.string.1 := by
  simp only [string, h]
  split
  · rfl
  · split
    · split <;> rfl
    · rfl

theorem word_start (line : Text) :
    (start line).skipBlanks.word.1.bind Command.ofWord? = Command.ofWord? line.leadingWord ∧
      (start line).skipBlanks.word.2.skipBlanks.rest = line.behindWord := by
  have rest : (start line).skipBlanks.rest = line.trimStart := rfl
  unfold word Text.leadingWord Text.behindWord
  rw [rest]
  cases run : line.trimStart.takeWhile Text.isLetter with
  | nil =>
    have all := List.takeWhile_append_dropWhile (p := Text.isLetter) (l := line.trimStart)
    rw [run, List.nil_append] at all
    rw [all]
    exact ⟨rfl, rfl⟩
  | cons first letters => exact ⟨rfl, rfl⟩

end Cursor

/-- What a line at the prompt is. -/
inductive LineKind where
  | blank
  | numbered
  | command (c : Command)
  | statement
  deriving DecidableEq

def LineKind.of (line : Text) : LineKind :=
  if line.isEmptyLine then .blank
  else if Machine.isNumbered line then .numbered
  else
    match Command.ofWord? line.leadingWord with
    | some c => .command c
    | none => .statement

theorem Command.ofWord?_eq_some_iff {word : Text} {c : Command} :
    ofWord? word = some c ↔ word = c.spelling := by
  constructor
  · intro h
    have found := List.find?_some h
    exact (of_decide_eq_true found).symm
  · rintro rfl
    cases c <;> rfl

/-- A line begins with a command if its first word is one; no other line does. -/
theorem LineKind.of_eq_command_iff {line : Text} {c : Command} :
    LineKind.of line = .command c ↔
      Machine.isNumbered line = false ∧ line.leadingWord = c.spelling := by
  have blank (h : line.isEmptyLine = true) : line.leadingWord = [] := by
    have none : line.trimStart = [] := List.dropWhile_eq_nil_iff.mpr (List.all_eq_true.mp h)
    rw [Text.leadingWord, none]
    rfl
  rw [← Command.ofWord?_eq_some_iff, LineKind.of]
  split
  · rename_i h
    rw [blank h]
    cases c <;> simp [Command.ofWord?, Command.all, Command.spelling]
  · split
    · simp [*]
    · split <;> simp [*]

/-- What was found to be wrong with a line. The failure of a run comes with its text. -/
inductive Problem where
  | cause (cause : Cause)
  | failure (failure : Failure) (message : String)
  | file (error : FileError) (path : Path)

def Problem.message : Problem → String
  | cause c => c.message
  | failure _ message => message
  | file error path => error.message ++ ": " ++ String.ofList path.text

/-- How the work that a line asks for ends, before anything is reported. -/
inductive Upshot where
  | done
  | goodbye
  | problem (problem : Problem)
  | escape (trouble : Trouble)

namespace Upshot

def ofTrouble : Trouble → Upshot
  | .cause cause =>
    if cause.kind = .conversion then escape .unwritable else problem (.cause cause)
  | .file error path => problem (.file error path)
  | trouble => escape trouble

def ofCause? : Option Cause → Upshot
  | none => done
  | some cause => ofTrouble (.cause cause)

def ofFailure? : Option Failure → Upshot
  | none => done
  | some failure => failure.message?.elim (escape .unwritable) fun message =>
    problem (.failure failure message)

end Upshot

namespace Machine

def deleteAt (m : Machine) (text : Text) : Machine × Option Cause :=
  match (Cursor.start text).lineNumber.1 with
  | .error cause => (m, some cause)
  | .ok none => (m, some .lineNumberExpected)
  | .ok (some number) =>
    match m.deleteLine number with
    | .error cause => (m, some cause)
    | .ok m => (m, none)

end Machine

namespace Session

variable {α : Type}

def onMachine (s : Session) (work : Machine × Option Cause) : Session × Upshot :=
  ({ s with machine := work.1 }, .ofCause? work.2)

def afterRun (s : Session) (ended : Machine × Option Failure) : Session × Upshot :=
  ({ s with machine := ended.1 }, .ofFailure? ended.2)

def afterFile (done : String) : Session × Except Trouble α → Session × Upshot
  | (s, .ok _) => (s.update (·.write (done ++ "\n")), .done)
  | (s, .error trouble) => (s, .ofTrouble trouble)

def atFile (s : Session) (text : Text) (work : Path → Session × Upshot) : Session × Upshot :=
  match (Cursor.start text).string.1 with
  | .error cause => (s, .ofTrouble (.cause cause))
  | .ok none => (s, .problem (.cause .stringExpected))
  | .ok (some name) =>
    match path? name with
    | .error trouble => (s, .ofTrouble trouble)
    | .ok path => work path

def list (s : Session) : Session × Upshot :=
  (s.update fun m => m.write (String.ofList m.program.fileText),
    if s.machine.program.isWritable then .done else .escape .unwritable)

def obey (turns : Nat) (s : Session) (text : Text) : Command → Option (Session × Upshot)
  | .bye => some (s, .goodbye)
  | .list => some s.list
  | .run => ((s.allow 1).machine.runFor turns).map s.afterRun
  | .resume => ((s.allow 2).machine.continueFor turns).map s.afterRun
  | .clear => some (s.update Machine.clear, .done)
  | .new => some (s.update Machine.new, .done)
  | .delete => some (s.onMachine (s.machine.deleteAt text))
  | .load => some (s.atFile text fun path => afterFile "File loaded" ((s.allow 0).loadFrom path))
  | .save => some (s.atFile text fun path => afterFile "File saved" (s.saveTo path))

/-- The work that a line asks for. -/
def work (turns : Nat) (s : Session) (line : Text) : Option (Session × Upshot) :=
  match LineKind.of line with
  | .blank => some (s, .done)
  | .numbered => some (s.onMachine (s.machine.ingest line))
  | .command c => s.obey turns line.behindWord c
  | .statement => some (s.onMachine ((s.allow 3).machine.execute line))

def report : Session × Upshot → Session × Reply
  | (s, .done) => (s, .more)
  | (s, .goodbye) => (s, .goodbye)
  | (s, .problem problem) => (s.update (·.writeErrorLine problem.message), .more)
  | (s, .escape trouble) => (s, .escaped trouble)

section Handling

variable (turns : Nat) (s : Session) (line : Text)

theorem report_ofTrouble (m : Machine) (trouble : Trouble) :
    report ({ s with machine := m }, .ofTrouble trouble) =
      ({ s with machine := (m.report trouble).1 }, (m.report trouble).2) := by
  cases trouble with
  | cause cause =>
    by_cases conversion : cause.kind = .conversion
    · simp only [Upshot.ofTrouble, Machine.report, if_pos conversion, report]
    · simp only [Upshot.ofTrouble, Machine.report, if_neg conversion, report]
      rfl
  | _ => rfl

theorem fulfil_refused (m : Machine) (trouble : Trouble) :
    s.fulfil turns (m.refused trouble) =
      some (report ({ s with machine := m }, .ofTrouble trouble)) :=
  congrArg some (report_ofTrouble s m trouble).symm

theorem fulfil_settle (result : Machine × Option Cause) :
    s.fulfil turns (Machine.settle result) = some (report (s.onMachine result)) := by
  rcases result with ⟨m, _ | cause⟩
  · rfl
  · exact s.fulfil_refused turns m (.cause cause)

theorem reportFile_eq (done : String) (result : Session × Except Trouble α) :
    reportFile done result = report (afterFile done result) := by
  rcases result with ⟨s, trouble | value⟩
  · exact (report_ofTrouble s s.machine trouble).symm
  · rfl

theorem fulfil_list : s.fulfil turns s.machine.requestList = some (report s.list) := by
  unfold Machine.requestList list
  dsimp only
  rw [show (s.machine.write _).program = s.machine.program from rfl]
  split <;> rfl

theorem fulfil_run (m : Machine) (calls : Nat) : s.fulfil turns (.run m calls) =
    ((Machine.turns turns { m with room := s.room + calls }).map s.afterRun).map report := by
  rw [fulfil, Option.map_map]
  congr 1
  funext ⟨m, failure⟩
  cases failure with
  | none => rfl
  | some failure =>
    simp only [Function.comp, afterRun, Upshot.ofFailure?, Machine.reportRun]
    cases failure.message? <;> rfl

theorem fulfil_delete {c : Cursor} {text : Text} (h : c.skipBlanks.rest = text)
    (settled : text.trimStart = text) :
    s.fulfil turns (s.machine.requestDelete c) =
      some (report (s.onMachine (s.machine.deleteAt text))) := by
  have same : c.lineNumber.1 = (Cursor.start text).lineNumber.1 :=
    Cursor.lineNumber_congr (h.trans settled.symm)
  unfold Machine.requestDelete Machine.deleteAt
  rw [same]
  rcases (Cursor.start text).lineNumber.1 with cause | _ | number
  · exact s.fulfil_refused turns s.machine (.cause cause)
  · rfl
  · dsimp only
    cases s.machine.deleteLine number with
    | error cause => exact s.fulfil_refused turns s.machine (.cause cause)
    | ok m => rfl

theorem fulfil_file {c : Cursor} {text : Text} (h : c.skipBlanks.rest = text)
    (settled : text.trimStart = text) (request : Path → Request)
    (work : Path → Session × Upshot)
    (fulfilled : ∀ path, s.fulfil turns (request path) = some (report (work path))) :
    s.fulfil turns (s.machine.requestFile c request) = some (report (s.atFile text work)) := by
  have same : c.string.1 = (Cursor.start text).string.1 :=
    Cursor.string_congr (h.trans settled.symm)
  unfold Machine.requestFile atFile
  rw [same]
  rcases (Cursor.start text).string.1 with cause | _ | name
  · exact s.fulfil_refused turns s.machine (.cause cause)
  · rfl
  · dsimp only
    cases path? name with
    | error trouble => exact s.fulfil_refused turns s.machine trouble
    | ok path => exact fulfilled path

theorem handle_eq : s.handle turns line = (s.work turns line).map report := by
  obtain ⟨named, behind⟩ := Cursor.word_start line
  have settled := Text.trimStart_behindWord line
  unfold handle work request LineKind.of
  split
  · rfl
  · split
    · exact s.fulfil_settle turns _
    · dsimp only
      rw [named]
      cases Command.ofWord? line.leadingWord with
      | none => exact s.fulfil_settle turns _
      | some c =>
        cases c with
        | bye => rfl
        | list => exact s.fulfil_list turns
        | run =>
          have restarted : (s.allow 1).machine.restarted =
              { s.machine.restarted with room := s.room + 1 } := s.machine.restarted_within _
          refine (s.fulfil_run turns s.machine.restarted 1).trans ?_
          rw [← restarted]
          rfl
        | resume => exact s.fulfil_run turns s.machine.resumed 2
        | clear => rfl
        | new => rfl
        | delete => exact s.fulfil_delete turns behind settled
        | load =>
          exact s.fulfil_file turns behind settled _ _ fun path =>
            congrArg some (reportFile_eq "File loaded" ((s.allow 0).loadFrom path))
        | save =>
          exact s.fulfil_file turns behind settled _ _ fun path =>
            congrArg some (reportFile_eq "File saved" (s.saveTo path))

end Handling

section Channels

open Console

variable {turns : Nat} {s s' : Session} {line text : Text} {upshot : Upshot}

def quotedPath? (text : Text) : Option Path :=
  match (Cursor.start text).string.1 with
  | .ok (some name) => (path? name).toOption
  | _ => none

/-- The answers that the work on a line reads. -/
def answersTo (turns : Nat) (s : Session) (line : Text) : List Text :=
  match LineKind.of line with
  | .numbered => s.machine.ingestAnswers line
  | .statement => (s.allow 3).machine.executeAnswers line
  | .command .run => (s.allow 1).machine.restarted.runAnswers turns
  | .command .resume => (s.allow 2).machine.resumed.runAnswers turns
  | .command .load => (quotedPath? line.behindWord).elim [] (s.allow 0).loadAnswers
  | _ => []

theorem afterFile_talks {answers : List Text} (done : String)
    {worked : Session × Except Trouble α}
    (h : s.machine.console.Talks answers worked.1.machine.console) :
    s.machine.console.Talks answers (afterFile done worked).1.machine.console := by
  rcases worked with ⟨s', trouble | value⟩
  · exact h
  · exact h.trans_nil (.write _ _)

theorem atFile_talks {answers : Path → List Text} {work : Path → Session × Upshot}
    (h : ∀ path, s.machine.console.Talks (answers path) (work path).1.machine.console) :
    s.machine.console.Talks ((quotedPath? text).elim [] answers)
      (s.atFile text work).1.machine.console := by
  unfold quotedPath? atFile
  rcases (Cursor.start text).string.1 with cause | _ | name
  · exact .refl _
  · exact .refl _
  · dsimp only
    cases path? name with
    | error trouble => exact .refl _
    | ok path => exact h path

theorem deleteAt_console (m : Machine) (text : Text) :
    (m.deleteAt text).1.console = m.console := by
  unfold Machine.deleteAt
  split
  · rfl
  · rfl
  · split
    · rfl
    · rename_i hd
      unfold Machine.deleteLine Program.delete at hd
      split at hd <;> cases hd
      rfl

theorem obey_talks {c : Command} (kind : LineKind.of line = .command c)
    (h : s.obey turns line.behindWord c = some (s', upshot)) :
    s.machine.console.Talks (s.answersTo turns line) s'.machine.console := by
  unfold answersTo
  rw [kind]
  cases c with
  | bye =>
    cases h
    exact .refl _
  | list =>
    cases h
    exact .write _ _
  | run =>
    obtain ⟨⟨m, failure⟩, run, ended⟩ := Option.map_eq_some_iff.mp h
    cases ended
    exact (Machine.restarted_talks (s.allow 1).machine).trans (Machine.turns_talks run)
  | resume =>
    obtain ⟨⟨m, failure⟩, run, ended⟩ := Option.map_eq_some_iff.mp h
    cases ended
    exact Machine.turns_talks (m := (s.allow 2).machine.resumed) run
  | clear =>
    cases h
    exact .refl _
  | new =>
    cases h
    exact .refl _
  | delete =>
    obtain rfl : (s.onMachine (s.machine.deleteAt line.behindWord)).1 = s' :=
      congrArg Prod.fst (Option.some.inj h)
    rw [onMachine, deleteAt_console]
    exact .refl _
  | load =>
    obtain rfl : (s.atFile line.behindWord fun path =>
        afterFile "File loaded" ((s.allow 0).loadFrom path)).1 = s' :=
      congrArg Prod.fst (Option.some.inj h)
    refine atFile_talks fun path => afterFile_talks _ ?_
    obtain ⟨s', result, loaded, loading⟩ := (s.allow 0).loading path
    rw [loaded]
    exact loading.talks
  | save =>
    obtain rfl : (s.atFile line.behindWord fun path =>
        afterFile "File saved" (s.saveTo path)).1 = s' := congrArg Prod.fst (Option.some.inj h)
    have none : (quotedPath? line.behindWord).elim [] (fun _ => []) = ([] : List Text) := by
      cases quotedPath? line.behindWord <;> rfl
    rw [← none]
    exact atFile_talks fun path => afterFile_talks _ (s.saveTo_talks path)

theorem work_talks (h : s.work turns line = some (s', upshot)) :
    s.machine.console.Talks (s.answersTo turns line) s'.machine.console := by
  unfold work at h
  split at h
  · rename_i kind
    cases h
    rw [answersTo, kind]
    exact .refl _
  · rename_i kind
    cases h
    rw [answersTo, kind]
    exact s.machine.ingest_talks line
  · rename_i kind
    exact obey_talks kind h
  · rename_i kind
    cases h
    rw [answersTo, kind]
    exact (s.allow 3).machine.execute_talks line

end Channels

end Session

end NumberedBasic
