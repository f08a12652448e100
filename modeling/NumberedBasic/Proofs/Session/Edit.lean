import Mathlib.Data.List.Induction
import NumberedBasic.Proofs.Run.Turn
import NumberedBasic.Proofs.Session.Operation
import NumberedBasic.Proofs.Statement.Failure
import NumberedBasic.Table.Lookup

/-! # Edits

A program changes by edits only, which lines of input, deletions and files make.
Statements make none, and neither do runs. A line that was there is absent after some
edits exactly if it was removed by one of them and not stored by a later one.
-/

namespace NumberedBasic

/-- A change to a stored program. -/
inductive Edit where
  | store (number : Int) (text : Text)
  | erase (number : Int)
  | clear

namespace Edit

def removes (number : Int) : Edit → Bool
  | store _ _ => false
  | erase other => other == number
  | clear => true

def stores (number : Int) : Edit → Bool
  | store other _ => other == number
  | _ => false

/-- The line was taken away by one of the edits and not stored again by a later one. -/
def Removed (number : Int) (edits : List Edit) : Prop :=
  ∃ before edit after, edits = before ++ edit :: after ∧ edit.removes number = true ∧
    ∀ later ∈ after, later.stores number = false

theorem not_removed_nil (number : Int) : ¬Removed number [] := by
  rintro ⟨before, edit, after, h, -⟩
  simp at h

/-- An edit with one property behind which all edits have another is the last one or is found
before it. -/
theorem exists_split_concat_iff {p q : Edit → Prop} {edits : List Edit} {last : Edit} :
    (∃ before edit after, edits ++ [last] = before ++ edit :: after ∧ p edit ∧
      ∀ later ∈ after, q later) ↔
      p last ∨ (∃ before edit after, edits = before ++ edit :: after ∧ p edit ∧
        ∀ later ∈ after, q later) ∧ q last := by
  constructor
  · rintro ⟨before, edit, after, h, found, kept⟩
    rcases List.eq_nil_or_concat after with rfl | ⟨middle, final, rfl⟩
    · obtain ⟨-, rfl⟩ := List.append_singleton_inj.mp h
      exact .inl found
    · rw [List.concat_eq_append, ← List.cons_append, ← List.append_assoc,
        List.append_singleton_inj] at h
      obtain ⟨rfl, rfl⟩ := h
      refine .inr ⟨⟨before, edit, middle, rfl, found, fun later hl => ?_⟩, ?_⟩
      · exact kept later (by simp [hl])
      · exact kept last (by simp)
  · rintro (found | ⟨⟨before, edit, after, rfl, found, kept⟩, stays⟩)
    · exact ⟨edits, last, [], rfl, found, List.forall_mem_nil _⟩
    · refine ⟨before, edit, after ++ [last], by simp, found, fun later hl => ?_⟩
      rcases List.mem_append.mp hl with hl | hl
      · exact kept later hl
      · rwa [List.mem_singleton.mp hl]

theorem removed_concat_iff {number : Int} {edits : List Edit} {last : Edit} :
    Removed number (edits ++ [last]) ↔
      last.removes number = true ∨ Removed number edits ∧ last.stores number = false :=
  exists_split_concat_iff

end Edit

namespace Program

def edit (p : Program) : Edit → Program
  | .store number text => p.store number text
  | .erase number => p.erase number
  | .clear => Table.empty

/-- The program after one edit after the other. -/
def edited (p : Program) (edits : List Edit) : Program :=
  edits.foldl edit p

variable (p : Program)

@[simp] theorem edited_nil : p.edited [] = p := rfl

theorem edited_append (edits later : List Edit) :
    p.edited (edits ++ later) = (p.edited edits).edited later :=
  List.foldl_append

theorem get?_edit_eq_none_iff (number : Int) (e : Edit) : (p.edit e).get? number = none ↔
    e.removes number = true ∨ p.get? number = none ∧ e.stores number = false := by
  cases e with
  | store other text =>
    rw [edit, store, Table.get?_insert]
    by_cases h : number = other
    · simp [Edit.removes, Edit.stores, h]
    · simp [Edit.removes, Edit.stores, h, Ne.symm h]
  | erase other =>
    rw [edit, Table.get?_erase]
    by_cases h : number = other
    · simp [Edit.removes, h]
    · simp [Edit.removes, Edit.stores, h, Ne.symm h]
  | clear => simp [edit, Edit.removes, Edit.stores]

variable {p} {number : Int} {shown : Text}

theorem get?_edit_eq_some_iff {e : Edit} : (p.edit e).get? number = some shown ↔
    (∃ text, e = .store number text ∧ text.trim = shown) ∨
      p.get? number = some shown ∧ e.stores number = false ∧ e.removes number = false := by
  cases e with
  | store other text =>
    rw [edit, store, Table.get?_insert]
    by_cases h : number = other
    · simp [Edit.stores, h]
    · simp [Edit.stores, Edit.removes, h, Ne.symm h]
  | erase other =>
    rw [edit, Table.get?_erase]
    by_cases h : number = other
    · simp [Edit.removes, h]
    · simp [Edit.stores, Edit.removes, h, Ne.symm h]
  | clear => simp [edit, Edit.removes]

/-- A line that is there after some edits was there before, or one of them has stored it. -/
theorem stored_of_get?_edited {edits : List Edit}
    (held : (p.edited edits).get? number = some shown) :
    p.get? number = some shown ∨ ∃ text, .store number text ∈ edits ∧ text.trim = shown := by
  induction edits generalizing p with
  | nil => exact .inl held
  | cons e edits ih =>
    rcases ih held with before | ⟨text, later, trimmed⟩
    · rcases get?_edit_eq_some_iff.mp before with ⟨text, rfl, trimmed⟩ | ⟨before, -⟩
      · exact .inr ⟨text, List.mem_cons_self, trimmed⟩
      · exact .inl before
    · exact .inr ⟨text, List.mem_cons_of_mem e later, trimmed⟩

theorem get?_edited_eq_none_iff (present : p.get? number ≠ none)
    (edits : List Edit) : (p.edited edits).get? number = none ↔ Edit.Removed number edits := by
  induction edits using List.reverseRecOn with
  | nil => simp [present, Edit.not_removed_nil]
  | append_singleton edits last ih =>
    rw [edited_append, Edit.removed_concat_iff, ← ih]
    exact get?_edit_eq_none_iff _ number last

theorem mem_lineNumbers_iff : number ∈ p.lineNumbers ↔ p.get? number ≠ none := by
  rw [Option.ne_none_iff_exists', lineNumbers, Table.keys, List.mem_map]
  constructor
  · rintro ⟨⟨number, text⟩, h, rfl⟩
    exact ⟨text, (Table.get?_eq_some_iff _ _ _).mpr h⟩
  · rintro ⟨text, h⟩
    exact ⟨(number, text), (Table.get?_eq_some_iff _ _ _).mp h, rfl⟩

theorem lineNumbers_ascending (p : Program) : p.lineNumbers.Pairwise (· < ·) :=
  List.pairwise_map.mpr (p.increasing.imp Int.compare_eq_lt.mp)

end Program

namespace Machine

variable {m m' m'' : Machine} {edits later : List Edit}

/-- The program has changed by some edits, and the table of line numbers has not. -/
structure Edited (m : Machine) (edits : List Edit) (m' : Machine) : Prop where
  program : m'.program = m.program.edited edits
  address : m'.address = m.address

namespace Edited

theorem refl (m : Machine) : m.Edited [] m :=
  ⟨rfl, rfl⟩

theorem trans (h : m.Edited edits m') (h' : m'.Edited later m'') :
    m.Edited (edits ++ later) m'' where
  program := by rw [h'.program, h.program, Program.edited_append]
  address := h'.address.trans h.address

theorem of_fixed (h : Statement.Fixed m m') : m.Edited [] m' :=
  ⟨h.program, h.address⟩

theorem taken (m : Machine) (number : Int) : m.Edited [] (m.taken number) := by
  obtain ⟨errors, ht⟩ := m.exists_taken_eq number
  rw [ht]
  exact ⟨rfl, rfl⟩

theorem log (h : m.Edited edits m') (level : LogLevel) (source message : String) :
    m.Edited edits (m'.log level source message) := by
  obtain ⟨errors, hl⟩ := m'.exists_log_eq level source message
  rw [hl]
  exact ⟨h.program, h.address⟩

theorem executed (m : Machine) (text : Text) : m.Edited [] (m.execute text).1 := by
  have looked {m' : Machine} (fixed : Statement.Fixed m.look m') : m.Edited [] m' :=
    ⟨fixed.program, fixed.address⟩
  unfold execute
  split
  · rename_i he
    exact looked (Statement.execute_ok_fixed he)
  · rename_i he
    exact looked (Statement.execute_error_fixed he)

theorem stepped (turn : m.step = .going m') : m.Edited [] m' := by
  obtain ⟨-, number, text, u, s, -, -, he, rfl⟩ := step_eq_going_iff.mp turn
  exact (taken m number).trans (.of_fixed (Statement.execute_ok_fixed he))

theorem underway (h : m.Underway m') : m.Edited [] m' :=
  h.keeps (.refl m) fun _ _ earlier turn => earlier.trans (stepped turn)

theorem aborted {cause : Cause} {line : Int} {column : Nat} {failure : Option Failure}
    (h : .ended m' failure = m.abortRun cause line column) : m.Edited [] m' := by
  obtain ⟨errors, ha⟩ := m.exists_abortRun_eq cause line column
  cases h.trans ha
  exact ⟨rfl, rfl⟩

theorem ended {failure : Option Failure} (turn : m.step = .ended m' failure) : m.Edited [] m' := by
  rcases step_ended_cases turn with
    ⟨-, rfl⟩ | ⟨number, -, -, hm⟩ | ⟨number, text, cause, s, -, -, he, hm⟩
  · obtain ⟨errors, hf⟩ := m.exists_finishRun_eq
    rw [hf]
    exact ⟨rfl, rfl⟩
  · have current : m.Edited [] { m with current := some number } := ⟨rfl, rfl⟩
    exact current.trans (aborted hm)
  · exact ((taken m number).trans (.of_fixed (Statement.execute_error_fixed he))).trans (aborted hm)

theorem turns {count : Nat} {failure : Option Failure}
    (h : turns count m = some (m', failure)) : m.Edited [] m' := by
  obtain ⟨last, hu, turn⟩ := exists_underway_of_turns h
  exact (underway hu).trans (ended turn)

end Edited

/-- The edit that a line of input makes, if it begins with a number. -/
def lineEdits (text : Text) : List Edit :=
  match (Cursor.start text.trimStart).lineNumber with
  | (.ok (some number), c) => [.store number c.rest]
  | _ => []

/-- The edits of lines that are ingested up to the first that fails. -/
def linesEdits : Machine → List Text → List Edit
  | _, [] => []
  | m, line :: lines =>
    if line.isEmptyLine then linesEdits m lines
    else
      match m.ingest line with
      | (m, none) => lineEdits line ++ linesEdits m lines
      | (_, some _) => lineEdits line

theorem store_mem_lineEdits_iff {line text : Text} {number : Int} :
    .store number text ∈ lineEdits line ↔ ∃ n c,
      (Cursor.start line.trimStart).lineNumber = (.ok (some n), c) ∧ n = number ∧
        c.rest = text := by
  unfold lineEdits
  rcases (Cursor.start line.trimStart).lineNumber with ⟨cause | _ | n, c⟩
  · simp
  · simp
  · simp [eq_comm]

theorem exists_line_of_mem_linesEdits {m : Machine} {lines : List Text} {e : Edit}
    (made : e ∈ m.linesEdits lines) : ∃ line ∈ lines, e ∈ lineEdits line := by
  induction lines generalizing m with
  | nil => cases made
  | cons line lines ih =>
    have later {m : Machine} (made : e ∈ m.linesEdits lines) :
        ∃ other ∈ line :: lines, e ∈ lineEdits other := by
      obtain ⟨other, hl, made⟩ := ih made
      exact ⟨other, List.mem_cons_of_mem line hl, made⟩
    unfold linesEdits at made
    split at made
    · exact later made
    · split at made
      · rcases List.mem_append.mp made with here | made
        · exact ⟨line, List.mem_cons_self, here⟩
        · exact later made
      · exact ⟨line, List.mem_cons_self, made⟩

theorem Edited.ingested (m : Machine) (text : Text) :
    m.Edited (lineEdits text) (m.ingest text).1 := by
  rw [lineEdits, ingest_eq]
  rcases hl : (Cursor.start text.trimStart).lineNumber with ⟨cause | _ | number, c⟩
  all_goals dsimp only
  · exact .refl m
  · exact .executed m _
  · exact ⟨rfl, rfl⟩

theorem Edited.ingestedAll (m : Machine) (lines : List Text) :
    m.Edited (m.linesEdits lines) (m.ingestAll lines).1 := by
  induction lines generalizing m with
  | nil => exact .refl m
  | cons line lines ih =>
    unfold linesEdits ingestAll
    split
    · exact ih m
    · have ingested := Edited.ingested m line
      rcases hi : m.ingest line with ⟨m', _ | cause⟩
      all_goals
        rw [hi] at ingested
        dsimp only
      · exact ingested.trans (ih m')
      · exact ingested

theorem stored_of_get?_ingestAll {m : Machine} {lines : List Text} {number : Int} {shown : Text}
    (held : (m.ingestAll lines).1.program.get? number = some shown) :
    m.program.get? number = some shown ∨
      ∃ line ∈ lines, ∃ text, .store number text ∈ lineEdits line ∧ text.trim = shown := by
  rw [(Edited.ingestedAll m lines).program] at held
  refine (Program.stored_of_get?_edited held).imp_right ?_
  rintro ⟨text, made, trimmed⟩
  obtain ⟨line, hl, made⟩ := exists_line_of_mem_linesEdits made
  exact ⟨line, hl, text, made, trimmed⟩

/-- Lines are stored under numbers that can be written again. -/
theorem ingestAll_writable {m : Machine} (writable : m.program.isWritable = true)
    (lines : List Text) : (m.ingestAll lines).1.program.isWritable = true := by
  refine List.all_eq_true.mpr fun number member => ?_
  obtain ⟨shown, held⟩ := Option.ne_none_iff_exists'.mp (Program.mem_lineNumbers_iff.mp member)
  rcases stored_of_get?_ingestAll held with held | ⟨line, -, text, stored, -⟩
  · refine List.all_eq_true.mp writable number (Program.mem_lineNumbers_iff.mpr ?_)
    rw [held]
    nofun
  · obtain ⟨n, c, scanned, rfl, -⟩ := store_mem_lineEdits_iff.mp stored
    exact Cursor.isWritable_of_lineNumber (congrArg Prod.fst scanned)

end Machine

namespace Session

open Machine

def edits (s : Session) : Operation → List Edit
  | .ingest text => lineEdits text
  | .new => [.clear]
  | .delete number => if s.machine.program.contains number then [.erase number] else []
  | .load name =>
    match path? name with
    | .error _ => []
    | .ok path =>
      match (s.allow 2).directory.read path with
      | .ok content => (s.allow 2).machine.linesEdits content.lines
      | .error _ => []
  | _ => []

variable {s s' : Session} {operation : Operation} {result : Answer}

theorem edited_load (s : Session) (name : Text) : (s.allow 2).machine.Edited
    (s.edits (.load name)) ((s.allow 2).load name).1.machine := by
  unfold load edits
  rcases hp : path? name with trouble | path
  · simp only [hp]
    exact .refl _
  have ingested {lines : List Text} {m : Machine} {failure : Option Cause}
      (he : (s.allow 2).machine.ingestAll lines = (m, failure)) :
      (s.allow 2).machine.Edited ((s.allow 2).machine.linesEdits lines) m := by
    have all := Edited.ingestedAll (s.allow 2).machine lines
    rwa [he] at all
  obtain ⟨s', result, eq, loading⟩ := (s.allow 2).loading path
  simp only [hp, eq]
  cases loading with
  | unread read =>
    rw [read]
    exact .refl _
  | failed read he =>
    rw [read]
    exact ingested he
  | undecodable read he =>
    rw [read]
    exact ingested he
  | loaded read he =>
    rw [read]
    exact (ingested he).log _ _ _

theorem edited_save (s : Session) (name : Text) :
    s.machine.Edited [] (s.save name).1.machine := by
  unfold save saveTo
  split
  · exact .refl _
  · dsimp only
    split
    · exact .refl _
    · split
      · exact .log (.refl _) _ _ _
      · exact .refl _

/-- Operations change the program by their edits, and only a new run changes the table. -/
theorem edited_answer (old : ∀ turns, operation ≠ .run turns)
    (answer : s.answer operation = some (s', result)) :
    s.machine.Edited (s.edits operation) s'.machine := by
  have allowed {calls : Nat} {edits : List Edit} {m : Machine}
      (h : (s.allow calls).machine.Edited edits m) : s.machine.Edited edits m :=
    ⟨h.program, h.address⟩
  cases operation with
  | ingest text =>
    cases answer
    exact allowed (.ingested (s.allow 3).machine text)
  | execute text =>
    cases answer
    exact allowed (.executed (s.allow 4).machine text)
  | assign name value =>
    cases answer
    exact ⟨rfl, rfl⟩
  | clear =>
    cases answer
    exact ⟨rfl, rfl⟩
  | new =>
    cases answer
    exact ⟨rfl, rfl⟩
  | delete number =>
    unfold edits
    simp only [Session.answer, deleteLine, Program.delete] at answer
    by_cases present : s.machine.program.contains number = true
    · rw [if_pos present] at answer
      cases answer
      exact ⟨by simp only [if_pos present]; rfl, rfl⟩
    · rw [if_neg present] at answer
      cases answer
      exact ⟨by simp only [if_neg present]; rfl, rfl⟩
  | run turns => exact absurd rfl (old turns)
  | resume turns =>
    obtain ⟨⟨m, failure⟩, ht, he⟩ := Option.map_eq_some_iff.mp answer
    cases he
    have resumed : s.machine.Edited [] (s.allow 4).machine.resumed := ⟨rfl, rfl⟩
    exact resumed.trans (.turns ht)
  | load name =>
    cases answer
    exact allowed (s.edited_load name)
  | save name =>
    cases answer
    exact s.edited_save name

end Session

end NumberedBasic
