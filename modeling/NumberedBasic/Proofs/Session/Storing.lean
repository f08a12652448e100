import NumberedBasic.Proofs.Run.Correspondence
import NumberedBasic.Proofs.Session.Edit
import NumberedBasic.Proofs.Session.Request
import NumberedBasic.Proofs.Text.Line

/-! # Lines that are stored

A line is stored if its first character that is no blank is a digit of any script, and
then its number is the whole run of digits there. The prompt stores the same lines. What
is typed without a number never becomes a line of the program.
-/

namespace NumberedBasic

/-- A line begins with a number: blanks, all the digits behind them, and what follows. -/
structure Text.Numbered (line blanks digits behind : Text) : Prop where
  pieces : line = blanks ++ (digits ++ behind)
  blank : ∀ c ∈ blanks, isBlank c = true
  nonempty : digits ≠ []
  digit : ∀ c ∈ digits, isDigit c = true
  whole : ∀ c ∈ behind.head?, isDigit c = false

namespace Text

variable {line blanks digits behind : Text}

theorem Numbered.trimStart (h : line.Numbered blanks digits behind) :
    line.trimStart = digits ++ behind := by
  rw [h.pieces]
  apply dropWhile_run h.blank
  obtain ⟨first, others, rfl⟩ := List.exists_cons_of_ne_nil h.nonempty
  rintro _ ⟨⟩
  exact not_isBlank_of_isNameChar (isNameChar_of_isDigit (h.digit first List.mem_cons_self))

theorem isNumbered_iff : Machine.isNumbered line = true ↔
    ∃ first ∈ line.trimStart.head?, isDigit first = true := by
  simp [Machine.isNumbered, Option.any_eq_true]

theorem exists_numbered_iff : (∃ blanks digits behind, line.Numbered blanks digits behind) ↔
    Machine.isNumbered line = true := by
  rw [isNumbered_iff]
  constructor
  · rintro ⟨blanks, digits, behind, h⟩
    obtain ⟨first, others, rfl⟩ := List.exists_cons_of_ne_nil h.nonempty
    exact ⟨first, by simp [h.trimStart], h.digit first List.mem_cons_self⟩
  · rintro ⟨first, head, digit⟩
    obtain ⟨digits, behind, both, inside, outside⟩ := exists_run isDigit line.trimStart
    refine ⟨line.takeWhile isBlank, digits, behind, ?_, ?_, ?_, inside, outside⟩
    · rw [← both]
      exact List.takeWhile_append_dropWhile.symm
    · exact List.all_eq_true.mp List.all_takeWhile
    · rintro rfl
      rw [both, List.nil_append] at head
      simp [outside first head] at digit

end Text

namespace Machine

variable {m : Machine} {line blanks digits behind : Text}

structure Stored (m : Machine) (number : Int) (text : Text) (m' : Machine) : Prop where
  shown : m'.program.get? number = some text
  others : ∀ other, other ≠ number → m'.program.get? other = m.program.get? other
  rest : m' = { m with program := m'.program }

theorem stored_storeLine (m : Machine) (number : Int) (text : Text) :
    m.Stored number text.trim (m.storeLine number text) where
  shown := by simp [storeLine, Program.store, Table.get?_insert]
  others other h := by simp [storeLine, Program.store, Table.get?_insert, h]
  rest := rfl

/-- A line with a number is stored, or its number is too large. -/
theorem ingest_of_numbered (h : line.Numbered blanks digits behind) : m.ingest line =
    if Cursor.lineNumberDigits < digits.length then (m, some .lineNumberTooLarge)
    else (m.storeLine (Text.digitsValue digits) behind, none) := by
  have number := Cursor.lineNumber_run h.nonempty h.digit h.whole
  by_cases long : Cursor.lineNumberDigits < digits.length
  · simp only [ingest_eq, h.trimStart, number, if_pos long]
  · simp only [ingest_eq, h.trimStart, number, if_neg long]

theorem ingest_of_not_numbered (h : isNumbered line = false) :
    m.ingest line = m.execute line.trimStart :=
  if_neg (Bool.not_eq_true _ ▸ h)

theorem program_execute (m : Machine) (line : Text) : (m.execute line).1.program = m.program :=
  (Edited.executed m line).program

theorem program_log (m : Machine) (level : LogLevel) (source message : String) :
    (m.log level source message).program = m.program :=
  ((Edited.refl m).log level source message).program

end Machine

theorem LineKind.of_eq_numbered_iff {line : Text} :
    LineKind.of line = .numbered ↔ Machine.isNumbered line = true := by
  have blank (h : line.isEmptyLine = true) : Machine.isNumbered line = false := by
    have none : line.trimStart = [] := List.dropWhile_eq_nil_iff.mpr (List.all_eq_true.mp h)
    rw [Machine.isNumbered, none]
    rfl
  rw [LineKind.of]
  split
  · simp [*]
  · split
    · simp [*]
    · split <;> simp [*]

namespace Session

open Machine

variable {s s' : Session} {turns : Nat} {line : Text} {upshot : Upshot} {reply : Reply}

/-- How a line without a number can leave the program: as it was, unless it is a command that
forgets the program, deletes a line or ingests the lines of a file. -/
inductive Reprogrammed (s : Session) (line : Text) : Program → Prop where
  | kept : Reprogrammed s line s.machine.program
  | forgotten (kind : LineKind.of line = .command .new) : Reprogrammed s line Table.empty
  | deleted (number : Int) (kind : LineKind.of line = .command .delete) :
      Reprogrammed s line (s.machine.program.erase number)
  | loaded {path : Path} {content : Content} (kind : LineKind.of line = .command .load)
      (read : s.directory.read path = .ok content) :
      Reprogrammed s line ((s.allow 0).machine.ingestAll content.lines).1.program

theorem program_report (worked : Session × Upshot) :
    (report worked).1.machine.program = worked.1.machine.program := by
  rcases worked with ⟨s, upshot⟩
  cases upshot <;> rfl

theorem program_afterRun {m : Machine} {ended : Machine × Option Failure}
    (h : m.turns turns = some ended) :
    (s.afterRun ended).1.machine.program = m.program :=
  (Edited.turns h).program

theorem deleteAt_reprogrammed (kind : LineKind.of line = .command .delete) (text : Text) :
    s.Reprogrammed line (s.machine.deleteAt text).1.program := by
  unfold deleteAt
  split
  · exact .kept
  · exact .kept
  · rename_i number _
    split
    · exact .kept
    · rename_i deleted
      unfold deleteLine Program.delete at deleted
      split at deleted <;> cases deleted
      exact .deleted number kind

theorem atFile_reprogrammed {text : Text} {work : Path → Session × Upshot}
    (h : ∀ path, s.Reprogrammed line (work path).1.machine.program) :
    s.Reprogrammed line (s.atFile text work).1.machine.program := by
  unfold atFile
  split
  · exact .kept
  · exact .kept
  · split
    · exact .kept
    · exact h _

theorem program_afterFile {α : Type} (done : String) (worked : Session × Except Trouble α) :
    (afterFile done worked).1.machine.program = worked.1.machine.program := by
  rcases worked with ⟨s, trouble | value⟩ <;> rfl

theorem program_saveTo (s : Session) (path : Path) :
    (s.saveTo path).1.machine.program = s.machine.program := by
  unfold saveTo
  dsimp only
  split
  · rfl
  · split
    · exact program_log _ _ _ _
    · rfl

theorem loadFrom_reprogrammed (kind : LineKind.of line = .command .load) (path : Path) :
    s.Reprogrammed line ((s.allow 0).loadFrom path).1.machine.program := by
  have ingested {content : Content} {m : Machine} {failure : Option Cause}
      (read : s.directory.read path = .ok content)
      (h : (s.allow 0).machine.ingestAll content.lines = (m, failure)) :
      s.Reprogrammed line m.program := by
    have loaded := Reprogrammed.loaded kind read
    rwa [h] at loaded
  obtain ⟨s', result, eq, loading⟩ := (s.allow 0).loading path
  rw [eq]
  cases loading with
  | unread => exact .kept
  | failed read h => exact ingested read h
  | undecodable read h => exact ingested read h
  | loaded read h =>
    rw [logLoaded, program_log]
    exact ingested read h

theorem obey_reprogrammed {c : Command} (kind : LineKind.of line = .command c)
    (h : s.obey turns line.behindWord c = some (s', upshot)) :
    s.Reprogrammed line s'.machine.program := by
  cases c with
  | bye | list | clear =>
    cases h
    exact .kept
  | new =>
    cases h
    exact .forgotten kind
  | run =>
    obtain ⟨ended, run, after⟩ := Option.map_eq_some_iff.mp h
    obtain rfl : (s.afterRun ended).1 = s' := congrArg Prod.fst after
    obtain ⟨errors, restarted⟩ := (s.allow 1).machine.exists_restarted_eq
    rw [program_afterRun run, restarted]
    exact .kept
  | resume =>
    obtain ⟨ended, run, after⟩ := Option.map_eq_some_iff.mp h
    obtain rfl : (s.afterRun ended).1 = s' := congrArg Prod.fst after
    have resumed : (s.allow 2).machine.resumed.program = s.machine.program := rfl
    rw [program_afterRun run, resumed]
    exact .kept
  | delete =>
    obtain rfl := congrArg Prod.fst (Option.some.inj h)
    exact deleteAt_reprogrammed kind line.behindWord
  | load =>
    obtain rfl := congrArg Prod.fst (Option.some.inj h)
    apply atFile_reprogrammed
    intro path
    rw [program_afterFile]
    exact loadFrom_reprogrammed kind path
  | save =>
    obtain rfl := congrArg Prod.fst (Option.some.inj h)
    apply atFile_reprogrammed
    intro path
    rw [program_afterFile, program_saveTo]
    exact .kept

/-- What is typed without a number does not become a line of the program. -/
theorem handle_reprogrammed (unnumbered : isNumbered line = false)
    (h : s.handle turns line = some (s', reply)) : s.Reprogrammed line s'.machine.program := by
  rw [handle_eq] at h
  obtain ⟨⟨worked, upshot⟩, work, reported⟩ := Option.map_eq_some_iff.mp h
  obtain rfl : (report (worked, upshot)).1 = s' := congrArg Prod.fst reported
  rw [program_report]
  unfold Session.work at work
  split at work
  · cases work
    exact .kept
  · rename_i kind
    rw [LineKind.of_eq_numbered_iff, unnumbered] at kind
    cases kind
  · rename_i kind
    exact obey_reprogrammed kind work
  · obtain rfl := congrArg Prod.fst (Option.some.inj work)
    have executed : (s.onMachine ((s.allow 3).machine.execute line)).1.machine.program =
        s.machine.program := program_execute (s.allow 3).machine line
    rw [executed]
    exact .kept

theorem handle_of_numbered (turns : Nat) (h : isNumbered line = true) :
    s.handle turns line = some (report (s.onMachine (s.machine.ingest line))) := by
  have kind := LineKind.of_eq_numbered_iff.mpr h
  simp only [handle_eq, work, kind, Option.map_some]

/-- Lines are stored by their first character that is no blank, in a file and at the prompt.
Behind a digit of any script the whole run of digits is the number and the text behind them
is the line, trimmed. A number of too many digits is a failure that changes nothing. Any other
line is executed, and the prompt does not store it. -/
theorem line_stored_or_executed (s : Session) (line : Text) :
    ((∃ blanks digits behind, line.Numbered blanks digits behind) ↔
      ∃ first ∈ line.trimStart.head?, Text.isDigit first = true) ∧
    (∀ blanks digits behind, line.Numbered blanks digits behind →
      (digits.length ≤ 4300 → ∃ m, s.machine.Stored (Text.digitsValue digits) behind.trim m ∧
        s.machine.ingest line = (m, none) ∧
        ∀ turns, s.handle turns line = some ({ s with machine := m }, .more)) ∧
      (4300 < digits.length → s.machine.ingest line = (s.machine, some .lineNumberTooLarge) ∧
        ∀ turns, s.handle turns line =
          some (s.update (·.writeErrorLine "Line # too large"), .more))) ∧
    ((¬∃ blanks digits behind, line.Numbered blanks digits behind) →
      s.machine.ingest line = s.machine.execute line.trimStart ∧
      (s.machine.ingest line).1.program = s.machine.program ∧
      ∀ turns s' reply, s.handle turns line = some (s', reply) →
        s.Reprogrammed line s'.machine.program) := by
  refine ⟨Text.exists_numbered_iff.trans Text.isNumbered_iff, ?_, ?_⟩
  · intro blanks digits behind h
    have ingested := ingest_of_numbered (m := s.machine) h
    have handled (turns : Nat) := handle_of_numbered (s := s) turns
      (Text.exists_numbered_iff.mp ⟨blanks, digits, behind, h⟩)
    constructor
    · intro short
      have few : ¬digits.length > Cursor.lineNumberDigits := Nat.not_lt.mpr short
      rw [if_neg few] at ingested
      rw [ingested] at handled
      exact ⟨_, stored_storeLine _ _ _, ingested, handled⟩
    · intro long
      rw [if_pos (show Cursor.lineNumberDigits < digits.length from long)] at ingested
      rw [ingested] at handled
      exact ⟨ingested, handled⟩
  · intro none
    have unnumbered : isNumbered line = false := by
      simpa [Text.exists_numbered_iff] using none
    have ingested := ingest_of_not_numbered (m := s.machine) unnumbered
    refine ⟨ingested, ?_, fun turns s' reply => handle_reprogrammed unnumbered⟩
    rw [ingested, program_execute]

/-- Digits of two scripts are one number, too many are none, and a sign begins none. -/
theorem mixed_digits_stored_and_sign_executed :
    let s : Session := ⟨.fresh 0 0 (.ofInput []), ⟨[], Table.empty⟩, 0⟩
    (∃ m, s.machine.Stored 42 ['e', 'n', 'd'] m ∧
      s.handle 0 [' ', '0', '\u0664', '2', ' ', 'e', 'n', 'd', ' '] =
        some ({ s with machine := m }, .more)) ∧
    s.machine.ingest (List.replicate 4301 '7') = (s.machine, some .lineNumberTooLarge) ∧
    s.machine.ingest [' ', '-', '1'] = s.machine.execute ['-', '1'] := by
  intro s
  have mixed : Text.Numbered [' ', '0', '\u0664', '2', ' ', 'e', 'n', 'd', ' '] [' ']
      ['0', '\u0664', '2'] [' ', 'e', 'n', 'd', ' '] := by
    constructor
    · rfl
    · exact List.all_eq_true.mp (by decide +kernel)
    · simp
    · exact List.all_eq_true.mp (by decide +kernel)
    · rintro _ ⟨⟩
      decide +kernel
  have long (more : Nat) : Text.Numbered (List.replicate (more + 1) '7') []
      (List.replicate (more + 1) '7') [] := by
    constructor
    · simp
    · simp
    · simp
    · intro c hc
      rw [List.eq_of_mem_replicate hc]
      decide +kernel
    · simp
  constructor
  · obtain ⟨-, numbered, -⟩ :=
      line_stored_or_executed s [' ', '0', '\u0664', '2', ' ', 'e', 'n', 'd', ' ']
    obtain ⟨m, stored, -, handled⟩ := (numbered _ _ _ mixed).1 (by decide)
    have value : Text.digitsValue ['0', '\u0664', '2'] = 42 := by decide +kernel
    have behind : Text.trim [' ', 'e', 'n', 'd', ' '] = ['e', 'n', 'd'] := by decide +kernel
    rw [value, behind] at stored
    exact ⟨m, stored, handled 0⟩
  constructor
  · obtain ⟨-, numbered, -⟩ := line_stored_or_executed s (List.replicate 4301 '7')
    exact ((numbered _ _ _ (long 4300)).2 (by rw [List.length_replicate]; decide)).1
  · obtain ⟨begins, -, unnumbered⟩ := line_stored_or_executed s [' ', '-', '1']
    refine (unnumbered ?_).1
    rw [begins, ← Text.isNumbered_iff]
    decide +kernel

end Session

end NumberedBasic
