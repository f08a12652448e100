import NumberedBasic.Proofs.Run.Turn
import NumberedBasic.Proofs.Session.Written
import NumberedBasic.Proofs.Text.Line
import NumberedBasic.Session

/-! # Loading what was saved

A listed line is a number before a tab, and it is ingested as a line with that number and the
text behind the tab, whatever the text begins with. So a file that was saved loads as the
program it was saved from.
-/

namespace NumberedBasic

/-- Numbers that are read back, and texts that are a single line without blanks at its ends. -/
structure Program.Legible (p : Program) : Prop where
  number_nonneg : ∀ line ∈ p.entries, 0 ≤ line.1
  number_short : ∀ line ∈ p.entries, (integerText line.1).length ≤ Cursor.lineNumberDigits
  text_trimmed : ∀ line ∈ p.entries, line.2.trim = line.2
  text_whole : ∀ line ∈ p.entries, ∀ c ∈ line.2, Text.isLineEnd c = false

/-- The program with more lines, which replace those of the same numbers. -/
def Program.overlay (p : Program) (lines : List (Int × Text)) : Program :=
  lines.foldl (fun p line => p.insert line.1 line.2) p

theorem Program.get?_overlay (p q : Program) (number : Int) :
    (p.overlay q.entries).get? number = (q.get? number).or (p.get? number) := by
  obtain ⟨entries, increasing⟩ := q
  change _ = (entries.lookup number).or _
  induction entries generalizing p with
  | nil => rfl
  | cons line lines ih =>
    obtain ⟨first, others⟩ := List.pairwise_cons.mp increasing
    refine (ih (p.insert line.1 line.2) others).trans ?_
    rw [Table.get?_insert]
    split
    · rename_i h
      subst h
      -- no later line has the number of the first one
      have absent : lines.lookup line.1 = none := by
        rw [List.lookup_eq_none_iff]
        intro line' hl
        have lt : compare line.1 line'.1 = .lt := first line' hl
        refine bne_iff_ne.mpr fun he => ?_
        simp [he, Std.ReflCmp.compare_self] at lt
      rw [absent, List.lookup_cons_self]
      rfl
    · rename_i h
      rw [Table.lookup_cons_of_ne h]

section Lines

variable {number : Int} {text : Text}

theorem integerText_of_nonneg (h : 0 ≤ number) :
    integerText number = Nat.toDigits 10 number.natAbs := by
  rw [integerText, if_neg (Int.not_lt.mpr h), List.nil_append]

theorem Text.isLineEnd_of_isDigit {c : Char} (h : Text.isDigit c = true) :
    Text.isLineEnd c = false := by
  have blank (h' : Text.isBlank c = true) : False := by
    rw [Text.not_isDigit_of_isBlank h'] at h
    cases h
  rw [Text.isLineEnd, Bool.or_eq_false_iff, beq_eq_false_iff_ne, beq_eq_false_iff_ne]
  constructor
  · rintro rfl
    exact blank (by decide +kernel)
  · rintro rfl
    exact blank (by decide +kernel)

theorem Program.listingLine_whole (nonneg : 0 ≤ number)
    (whole : ∀ c ∈ text, Text.isLineEnd c = false) :
    ∀ c ∈ listingLine number text, Text.isLineEnd c = false := by
  intro c hc
  rw [listingLine, integerText_of_nonneg nonneg] at hc
  rcases List.mem_append.mp hc with hc | hc
  · exact Text.isLineEnd_of_isDigit (Text.isDigit_of_mem_toDigits hc)
  · rcases List.mem_cons.mp hc with rfl | hc
    · rfl
    · exact whole c hc

theorem Program.exists_listingLine_eq (nonneg : 0 ≤ number) (text : Text) :
    ∃ first rest, listingLine number text = first :: rest ∧ Text.isDigit first = true ∧
      Text.isBlank first = false := by
  rw [listingLine, integerText_of_nonneg nonneg]
  cases hd : Nat.toDigits 10 number.natAbs with
  | nil => exact absurd hd Nat.toDigits_ne_nil
  | cons first rest =>
    have digit : Text.isDigit first = true := by
      refine Text.isDigit_of_mem_toDigits (n := number.natAbs) ?_
      rw [hd]
      exact List.mem_cons_self
    exact ⟨first, _, rfl, digit, Text.not_isBlank_of_isNameChar (Text.isNameChar_of_isDigit digit)⟩

namespace Machine

theorem ingest_listingLine (m : Machine) (nonneg : 0 ≤ number)
    (short : (integerText number).length ≤ Cursor.lineNumberDigits)
    (trimmed : text.trim = text) : m.ingest (Program.listingLine number text) =
      ({ m with program := m.program.insert number text }, none) := by
  obtain ⟨first, rest, hl, digit, visible⟩ := Program.exists_listingLine_eq nonneg text
  have starts : (Program.listingLine number text).trimStart = Program.listingLine number text := by
    rw [hl, Text.trimStart, List.dropWhile_cons_of_neg (by simp [visible])]
  have numbered : (Program.listingLine number text).head?.any Text.isDigit = true := by
    rw [hl]
    exact digit
  have tab : ∀ c ∈ ('\t' :: text).head?, Text.isDigit c = false := by
    rintro _ ⟨⟩
    decide +kernel
  have value : ((Text.digitsValue (Nat.toDigits 10 number.natAbs) : Nat) : Int) = number := by
    rw [Text.digitsValue_toDigits, Int.natAbs_of_nonneg nonneg]
  have read : (Cursor.start (Program.listingLine number text)).lineNumber =
      (.ok (some (Text.digitsValue (Nat.toDigits 10 number.natAbs))),
        ⟨(integerText number).length, '\t' :: text⟩) := by
    rw [integerText_of_nonneg nonneg] at short
    rw [Program.listingLine, integerText_of_nonneg nonneg,
      Cursor.lineNumber_run Nat.toDigits_ne_nil (fun c hc => Text.isDigit_of_mem_toDigits hc) tab,
      if_neg (Nat.not_lt.mpr short)]
  have behind : Text.trim ('\t' :: text) = text := by
    rw [Text.trim_cons_of_isBlank (by decide +kernel), trimmed]
  simp only [ingest, starts, if_pos numbered, ingestNumbered, read, value, storeLine,
    Program.store, behind]

/-- A listing is ingested without a failure, one line after the other. -/
theorem ingestAll_listing (m : Machine) (lines : List (Int × Text))
    (nonneg : ∀ line ∈ lines, 0 ≤ line.1)
    (short : ∀ line ∈ lines, (integerText line.1).length ≤ Cursor.lineNumberDigits)
    (trimmed : ∀ line ∈ lines, line.2.trim = line.2) :
    m.ingestAll (lines.map fun line => Program.listingLine line.1 line.2) =
      ({ m with program := m.program.overlay lines }, none) := by
  induction lines generalizing m with
  | nil => rfl
  | cons line lines ih =>
    obtain ⟨nonneg, nonneg'⟩ := List.forall_mem_cons.mp nonneg
    obtain ⟨short, short'⟩ := List.forall_mem_cons.mp short
    obtain ⟨trimmed, trimmed'⟩ := List.forall_mem_cons.mp trimmed
    have visible : (Program.listingLine line.1 line.2).isEmptyLine = false := by
      obtain ⟨first, rest, hl, -, hf⟩ := Program.exists_listingLine_eq nonneg line.2
      rw [hl, Text.isEmptyLine, List.all_cons, hf, Bool.false_and]
    rw [List.map_cons, ingestAll, visible, m.ingest_listingLine nonneg short trimmed]
    exact ih _ nonneg' short' trimmed'

end Machine

end Lines

namespace Program.Legible

variable {p : Program} (h : p.Legible)

include h

theorem writable {line : Int × Text} (hl : line ∈ p.entries) :
    NumberedBasic.isWritable line.1 = true := by
  have short := h.number_short line hl
  rw [integerText_of_nonneg (h.number_nonneg line hl)] at short
  exact decide_eq_true short

theorem listing_eq : p.listing = p.entries.map fun line => listingLine line.1 line.2 := by
  rw [listing, List.takeWhile_eq_self_iff.mpr fun _ => h.writable]

theorem isWritable : p.isWritable = true := by
  rw [Program.isWritable, lineNumbers, List.all_eq_true]
  intro number stored
  obtain ⟨line, hl, rfl⟩ := List.mem_map.mp stored
  exact h.writable hl

theorem lines_fileText : p.fileText.lines = p.listing := by
  refine Text.lines_flatMap fun line hl => ?_
  rw [h.listing_eq] at hl
  obtain ⟨line, hm, rfl⟩ := List.mem_map.mp hl
  exact listingLine_whole (h.number_nonneg line hm) (h.text_whole line hm)

theorem ingestAll (m : Machine) :
    m.ingestAll p.fileText.lines = ({ m with program := m.program.overlay p.entries }, none) := by
  rw [h.lines_fileText, h.listing_eq]
  exact m.ingestAll_listing p.entries h.number_nonneg h.number_short h.text_trimmed

end Program.Legible

namespace Session

variable {s s' : Session} {name text : Text}

theorem save_eq_ok_iff : s.save name = (s', .ok text) ↔
    ∃ path directory, path? name = .ok path ∧
      s.directory.write path s.machine.program.fileText = .ok directory ∧
      s.machine.program.isWritable = true ∧
      s' = ⟨s.machine.logSaved path.text, directory, s.room⟩ ∧
      text = s.machine.program.fileText := by
  unfold save saveTo
  cases hp : path? name with
  | error trouble => simp
  | ok path =>
    cases hw : s.directory.write path s.machine.program.fileText with
    | error error => simp [hw]
    | ok directory =>
      cases writable : s.machine.program.isWritable with
      | false => simp [hw]
      | true => simp [hw, eq_comm]

/-- What was saved loads without a failure into any machine, line for line. Only the program
of the machine changes, which has the saved lines now and its own lines for other numbers.
If it had none, it is the saved program and is saved as the same file again. -/
theorem load_saved (legible : s.machine.program.Legible) (saved : s.save name = (s', .ok text))
    (m : Machine) (room : Nat) :
    ∃ (program : Program) (errors : String) (loaded : Session),
      Session.load ⟨m, s'.directory, room⟩ name = (loaded, .ok s.machine.program.size) ∧
      loaded.machine = { m with program, console := { m.console with errors } } ∧
      loaded.directory = s'.directory ∧
      (m.console.verbose = false → errors = m.console.errors) ∧
      (∀ number, program.get? number =
        (s.machine.program.get? number).or (m.program.get? number)) ∧
      (m.program = Table.empty → program = s.machine.program ∧
        ∃ again : Session, loaded.save name = (again, .ok text) ∧
          again.directory = s'.directory) := by
  obtain ⟨path, directory, hp, written, -, rfl, rfl⟩ := save_eq_ok_iff.mp saved
  obtain ⟨read, rewritten⟩ := Directory.read_written written
  let program := m.program.overlay s.machine.program.entries
  obtain ⟨errors, logged⟩ := Machine.exists_log_eq { m with program } .info Machine.logSource
    s!"loaded {s.machine.program.size} lines from {String.ofList path.text}"
  have length : s.machine.program.fileText.lines.length = s.machine.program.size := by
    rw [legible.lines_fileText, legible.listing_eq, List.length_map, Table.size]
  have overlaid := m.program.get?_overlay s.machine.program
  have load : Session.load ⟨m, directory, room⟩ name =
      (⟨{ m with program, console := { m.console with errors } }, directory, room⟩,
        .ok s.machine.program.size) := by
    rw [load, hp]
    simp only [loadFrom, read, Content.lines, legible.ingestAll, length]
    exact congrArg (fun machine => (Session.mk machine directory room, _)) logged
  refine ⟨program, errors, _, load, rfl, rfl, ?_, overlaid, ?_⟩
  · intro quiet
    have same := congrArg (fun m => m.console.errors) logged
    simpa [Machine.log, quiet] using same.symm
  · intro empty
    have whole : program = s.machine.program := by
      refine Table.ext_get? fun number => (overlaid number).trans ?_
      rw [empty, Table.get?_empty, Option.or_none]
    refine ⟨whole, _, save_eq_ok_iff.mpr ⟨path, directory, hp, ?_, ?_, rfl, ?_⟩, rfl⟩
    all_goals
      dsimp only
      rw [whole]
    · exact rewritten
    · exact legible.isWritable

/-- A line without text and a text that begins with a digit load as they were saved. -/
theorem load_saved_digit :
    let m := ((Machine.fresh 0 0 (.ofInput [])).storeLine 10 []).storeLine 20 ['3', ' ', 'A']
    let text : Text := ['1', '0', '\t', '\n', '2', '0', '\t', '3', ' ', 'A', '\n']
    ∃ s' loaded : Session, save ⟨m, ⟨[], Table.empty⟩, 0⟩ ['p'] = (s', .ok text) ∧
      load ⟨.fresh 1 1 (.ofInput []), s'.directory, 0⟩ ['p'] = (loaded, .ok 2) ∧
      loaded.machine.program = m.program := by
  intro m text
  let s : Session := ⟨m, ⟨[], Table.empty⟩, 0⟩
  have lines : m.program.entries = [(10, []), (20, ['3', ' ', 'A'])] := by decide +kernel
  have whole : ∀ line ∈ m.program.entries, line.2.all (fun c => !Text.isLineEnd c) = true := by
    rw [lines]
    decide +kernel
  have legible : m.program.Legible := by
    refine ⟨?_, ?_, ?_, fun line hl c hc => ?_⟩
    case refine_4 => simpa using List.all_eq_true.mp (whole line hl) c hc
    all_goals
      rw [lines]
      decide +kernel
  have saved : (s.save ['p']).2.toOption = some text := by decide +kernel
  have done : s.save ['p'] = ((s.save ['p']).1, .ok text) := by
    refine Prod.ext rfl ?_
    cases hs : (s.save ['p']).2 with
    | error trouble => simp [hs, Except.toOption] at saved
    | ok written => simpa [hs, Except.toOption] using saved
  obtain ⟨program, errors, loaded, load, changed, -, -, -, whole⟩ :=
    load_saved legible done (.fresh 1 1 (.ofInput [])) 0
  have size : m.program.size = 2 := congrArg List.length lines
  refine ⟨_, loaded, done, size ▸ load, ?_⟩
  rw [changed]
  exact (whole rfl).1

end Session

end NumberedBasic
