import NumberedBasic.Proofs.Run.Failure
import NumberedBasic.Proofs.Session.Edit
import NumberedBasic.Proofs.Session.Request
import NumberedBasic.Proofs.Statement.Complaint
import NumberedBasic.Proofs.Text.Utf8

/-! # What the prompt contains

A line at the prompt meets a problem or none. Every problem is reported on the error channel
and the prompt goes on, except for a file name with a null character, a file that is no text and a
line number that cannot be written, which end it.
-/

namespace NumberedBasic

def Quotes (text name : Text) : Prop :=
  ∃ behind, text = '"' :: (name ++ '"' :: behind) ∧ '"' ∉ name

def nameCause (text : Text) : Cause :=
  if text.head? = some '"' then .unclosedString else .stringExpected

section Quoting

variable {text name : Text}

theorem takeWhile_of_not_mem {separator : Char} (h : separator ∉ name) (behind : Text) :
    (name ++ separator :: behind).takeWhile (· != separator) = name := by
  have inside : ∀ c ∈ name, (c != separator) = true := by
    intro c hc
    exact bne_iff_ne.mpr fun he => h (he ▸ hc)
  rw [List.takeWhile_append_of_pos inside, List.takeWhile_cons_of_neg (by simp), List.append_nil]

theorem string_of_quotes (settled : text.trimStart = text) (h : Quotes text name) :
    (Cursor.start text).string.1 = .ok (some name) := by
  obtain ⟨behind, rfl, clean⟩ := h
  have rest : (Cursor.start ('"' :: (name ++ '"' :: behind))).skipBlanks.rest =
      '"' :: (name ++ '"' :: behind) := settled
  simp only [Cursor.string, rest, Cursor.quote, if_true, takeWhile_of_not_mem clean]
  rw [if_pos (by simp)]

theorem string_of_not_quotes (settled : text.trimStart = text) (h : ∀ name, ¬Quotes text name) :
    (Cursor.start text).string.1 =
      if text.head? = some '"' then .error .unclosedString else .ok none := by
  have rest : (Cursor.start text).skipBlanks.rest = text := settled
  simp only [Cursor.string, rest]
  cases text with
  | nil => rfl
  | cons first ahead =>
    by_cases quoted : first = '"'
    · subst quoted
      have whole := List.takeWhile_append_dropWhile (p := (· != '"')) (l := ahead)
      cases left : ahead.dropWhile (· != '"') with
      | nil =>
        rw [left, List.append_nil] at whole
        simp [Cursor.quote, whole]
      | cons last behind =>
        -- the characters before the next quote would be a name
        refine absurd ⟨behind, ?_, ?_⟩ (h (ahead.takeWhile (· != '"')))
        · have stop := List.head?_dropWhile_not (· != '"') ahead
          rw [left] at stop
          have last_eq : last = '"' := by simpa using stop
          rw [left, last_eq] at whole
          rw [whole]
        · intro inside
          have clean := List.mem_takeWhile_imp inside
          simp at clean
    · have other : first ≠ Cursor.quote := quoted
      simp [quoted, other]

end Quoting

namespace Machine

variable {m m' : Machine} {text : Text} {cause : Cause} {failure : Failure}

theorem execute_kind (h : (m.execute text).2 = some cause) : cause.kind ≠ .conversion := by
  unfold execute at h
  split at h
  · cases h
  · rename_i failed
    cases h
    exact Statement.execute_error_kind failed

theorem lineNumber_kind {c : Cursor} (h : c.lineNumber.1 = .error cause) :
    cause.kind ≠ .conversion := by
  unfold Cursor.lineNumber at h
  dsimp only at h
  split at h
  · cases h
  · split at h
    · cases h
      nofun
    · cases h

theorem ingest_kind (h : (m.ingest text).2 = some cause) : cause.kind ≠ .conversion := by
  rw [ingest_eq] at h
  split at h
  · cases h
  · exact execute_kind h
  · rename_i failed
    cases h
    exact lineNumber_kind (congrArg Prod.fst failed)

theorem ingestAll_kind {lines : List Text} (h : (m.ingestAll lines).2 = some cause) :
    cause.kind ≠ .conversion := by
  induction lines generalizing m with
  | nil => cases h
  | cons line lines ih =>
    unfold ingestAll at h
    split at h
    · exact ih h
    · split at h
      · exact ih h
      · rename_i failed
        cases h
        exact ingest_kind (congrArg Prod.snd failed)

theorem deleteAt_kind (h : (m.deleteAt text).2 = some cause) : cause.kind ≠ .conversion := by
  unfold deleteAt at h
  split at h
  · rename_i failed
    cases h
    exact lineNumber_kind failed
  · cases h
    nofun
  · rename_i number read
    split at h
    · rename_i missing
      unfold deleteLine Program.delete at missing
      split at missing
      · cases missing
      · cases missing
        cases h
        simp [Cause.kind, Cursor.isWritable_of_lineNumber read]
    · cases h

theorem turns_message?_eq_none_iff {count : Nat} (h : turns count m = some (m', some failure)) :
    failure.message? = none ↔ isWritable failure.line = false := by
  obtain ⟨last, -, turn⟩ := exists_underway_of_turns h
  rcases step_ended_cases turn with
    ⟨hf, -⟩ | ⟨number, -, -, hm⟩ | ⟨number, text, cause, s, -, -, failed, hm⟩
  · cases hf
  · obtain ⟨errors, ha⟩ := exists_abortRun_eq { last with current := some number }
      (.lineMissing number) number 0
    cases hm.trans ha
    cases writable : isWritable number <;> simp [Failure.message?, Cause.kind, writable]
  · obtain ⟨errors, ha⟩ := s.machine.exists_abortRun_eq cause number s.cursor.column
    cases hm.trans ha
    have kind := Statement.execute_error_kind failed
    cases writable : isWritable number <;> simp [Failure.message?, kind, writable]

/-- The failure of a run can be told if the numbers of all lines can. -/
theorem exists_message_of_runFor {count : Nat} (writable : m.program.isWritable = true)
    (run : m.runFor count = some (m', some failure)) :
    ∃ message, failure.message? = some message := by
  obtain ⟨last, underway, turn⟩ := exists_underway_of_turns run
  obtain ⟨errors, begun⟩ := m.exists_restarted_eq
  have table : last.address = m.program.lineNumbers := by
    rw [(Edited.underway underway).address, begun]
  have member : failure.line ∈ m.program.lineNumbers :=
    table ▸ List.mem_of_getElem? (next?_eq_some_iff.mp (failedAt_of_step turn).line).2
  refine Option.ne_none_iff_exists'.mp fun none => ?_
  have unwritable := (turns_message?_eq_none_iff run).mp none
  cases (List.all_eq_true.mp writable _ member).symm.trans unwritable

end Machine

theorem Upshot.ofTrouble_cause {cause : Cause} (h : cause.kind ≠ .conversion) :
    ofTrouble (.cause cause) = problem (.cause cause) :=
  if_neg h

namespace Session

variable {turns : Nat} {s s' s'' : Session} {line text name : Text} {trouble : Trouble}
  {problem : Problem} {upshot : Upshot}

section Names

variable {work : Path → Session × Upshot}

theorem atFile_named (settled : text.trimStart = text) (h : Quotes text name)
    (valid : '\x00' ∉ name) : s.atFile text work = work (Path.ofText name) := by
  have ok : path? name = .ok (Path.ofText name) := by simp [path?, valid]
  rw [atFile, string_of_quotes settled h]
  simp only [ok]

theorem atFile_invalid (settled : text.trimStart = text) (h : Quotes text name)
    (null : '\x00' ∈ name) : s.atFile text work = (s, .escape .invalidName) := by
  have refused : path? name = .error .invalidName := by simp [path?, null]
  rw [atFile, string_of_quotes settled h]
  simp only [refused]
  rfl

theorem atFile_unquoted (settled : text.trimStart = text) (h : ∀ name, ¬Quotes text name) :
    s.atFile text work = (s, .problem (.cause (nameCause text))) := by
  rw [atFile, string_of_not_quotes settled h, nameCause]
  by_cases opened : text.head? = some '"'
  · rw [if_pos opened, if_pos opened]
    rfl
  · rw [if_neg opened, if_neg opened]

theorem atFile_cases (s : Session) (work : Path → Session × Upshot)
    (settled : text.trimStart = text) :
    (∃ name, Quotes text name ∧ '\x00' ∉ name ∧ s.atFile text work = work (Path.ofText name)) ∨
      (∃ name, Quotes text name ∧ '\x00' ∈ name ∧
        s.atFile text work = (s, .escape .invalidName)) ∨
      (∀ name, ¬Quotes text name) ∧
        s.atFile text work = (s, .problem (.cause (nameCause text))) := by
  by_cases quoted : ∃ name, Quotes text name
  · obtain ⟨name, h⟩ := quoted
    by_cases null : '\x00' ∈ name
    · exact .inr (.inl ⟨name, h, null, atFile_invalid settled h null⟩)
    · exact .inl ⟨name, h, null, atFile_named settled h null⟩
  · have none : ∀ name, ¬Quotes text name := fun name h => quoted ⟨name, h⟩
    exact .inr (.inr ⟨none, atFile_unquoted settled none⟩)

end Names

/-- A line meets a problem: a statement, a stored line, a deletion, a run or a line of a file
fails, a file name is missing, or a file cannot be read or written. -/
inductive Meets (s : Session) (line : Text) : Problem → Prop where
  | stored {cause : Cause} (kind : LineKind.of line = .numbered)
      (failed : (s.machine.ingest line).2 = some cause) : Meets s line (.cause cause)
  | executed {cause : Cause} (kind : LineKind.of line = .statement)
      (failed : ((s.allow 3).machine.execute line).2 = some cause) : Meets s line (.cause cause)
  | ran {count : Nat} {m : Machine} {failure : Failure} {message : String}
      (kind : LineKind.of line = .command .run)
      (run : (s.allow 1).machine.runFor count = some (m, some failure))
      (told : failure.message? = some message) : Meets s line (.failure failure message)
  | resumed {count : Nat} {m : Machine} {failure : Failure} {message : String}
      (kind : LineKind.of line = .command .resume)
      (run : (s.allow 2).machine.continueFor count = some (m, some failure))
      (told : failure.message? = some message) : Meets s line (.failure failure message)
  | deleted {cause : Cause} (kind : LineKind.of line = .command .delete)
      (failed : (s.machine.deleteAt line.behindWord).2 = some cause) : Meets s line (.cause cause)
  | unnamed {c : Command} (kind : LineKind.of line = .command c) (file : c = .load ∨ c = .save)
      (unquoted : ∀ name, ¬Quotes line.behindWord name) :
      Meets s line (.cause (nameCause line.behindWord))
  | unread {name : Text} {error : FileError} (kind : LineKind.of line = .command .load)
      (quoted : Quotes line.behindWord name) (valid : '\x00' ∉ name)
      (read : s.directory.read (Path.ofText name) = .error error) :
      Meets s line (.file error (Path.ofText name))
  | loaded {name : Text} {content : Content} {cause : Cause}
      (kind : LineKind.of line = .command .load) (quoted : Quotes line.behindWord name)
      (valid : '\x00' ∉ name) (read : s.directory.read (Path.ofText name) = .ok content)
      (failed : ((s.allow 0).machine.ingestAll content.lines).2 = some cause) :
      Meets s line (.cause cause)
  | unwritten {name : Text} {error : FileError} (kind : LineKind.of line = .command .save)
      (quoted : Quotes line.behindWord name) (valid : '\x00' ∉ name)
      (write : s.directory.write (Path.ofText name) s.machine.program.fileText = .error error) :
      Meets s line (.file error (Path.ofText name))

/-- A line ends the prompt with trouble: its file name has a null character, the file that
it loads is no text and none of the lines before fails, or there is a line number that cannot be
written in what it lists or saves, or in the failure of its run. What comes before is done. -/
inductive Escapes (s : Session) (line : Text) : Trouble → Session → Prop where
  | invalidName {c : Command} {name : Text} (kind : LineKind.of line = .command c)
      (file : c = .load ∨ c = .save) (quoted : Quotes line.behindWord name)
      (null : '\x00' ∈ name) : Escapes s line .invalidName s
  | undecodable {name before : Text} {m : Machine} (kind : LineKind.of line = .command .load)
      (quoted : Quotes line.behindWord name) (valid : '\x00' ∉ name)
      (read : s.directory.read (Path.ofText name) = .ok (.binary before))
      (ingested : (s.allow 0).machine.ingestAll before.wholeLines = (m, none)) :
      Escapes s line .undecodable { s with machine := m }
  | unlisted (kind : LineKind.of line = .command .list)
      (unwritable : s.machine.program.isWritable = false) :
      Escapes s line .unwritable (s.update fun m => m.write (String.ofList m.program.fileText))
  | unsaved {name : Text} {directory : Directory} (kind : LineKind.of line = .command .save)
      (quoted : Quotes line.behindWord name) (valid : '\x00' ∉ name)
      (write : s.directory.write (Path.ofText name) s.machine.program.fileText = .ok directory)
      (unwritable : s.machine.program.isWritable = false) :
      Escapes s line .unwritable { s with directory }
  | ran {count : Nat} {m : Machine} {failure : Failure} (kind : LineKind.of line = .command .run)
      (run : (s.allow 1).machine.runFor count = some (m, some failure))
      (unwritable : isWritable failure.line = false) :
      Escapes s line .unwritable { s with machine := m }
  | resumed {count : Nat} {m : Machine} {failure : Failure}
      (kind : LineKind.of line = .command .resume)
      (run : (s.allow 2).machine.continueFor count = some (m, some failure))
      (unwritable : isWritable failure.line = false) :
      Escapes s line .unwritable { s with machine := m }

section Work

theorem upshot_of_meets (h : s.work turns line = some (s', upshot)) (met : s.Meets line problem) :
    upshot = .problem problem := by
  have settled := Text.trimStart_behindWord line
  have causes {worked : Machine × Option Cause} {cause : Cause} (failed : worked.2 = some cause)
      (kind : cause.kind ≠ .conversion) (h : some (s.onMachine worked) = some (s', upshot)) :
      upshot = .problem (.cause cause) := by
    have told := (congrArg Prod.snd (Option.some.inj h)).symm
    simp only [onMachine, failed, Upshot.ofCause?] at told
    exact told.trans (Upshot.ofTrouble_cause kind)
  have told {ended : Option (Machine × Option Failure)} {m : Machine} {failure : Failure}
      {message : String} (h : ended.map s.afterRun = some (s', upshot))
      (run : ∀ ended', ended = some ended' → (m, some failure) = ended')
      (told : failure.message? = some message) : upshot = .problem (.failure failure message) := by
    obtain ⟨ended, run', he⟩ := Option.map_eq_some_iff.mp h
    obtain rfl := run ended run'
    simp only [afterRun, Upshot.ofFailure?, told, Option.elim_some] at he
    exact (congrArg Prod.snd he).symm
  cases met with
  | stored kind failed =>
    simp only [work, kind] at h
    exact causes failed (Machine.ingest_kind failed) h
  | executed kind failed =>
    simp only [work, kind] at h
    exact causes failed (Machine.execute_kind failed) h
  | ran kind run message =>
    simp only [work, kind, obey] at h
    exact told h (fun _ => Machine.turns_unique run) message
  | resumed kind run message =>
    simp only [work, kind, obey] at h
    exact told h (fun _ => Machine.turns_unique run) message
  | deleted kind failed =>
    simp only [work, kind, obey] at h
    exact causes failed (Machine.deleteAt_kind failed) h
  | unnamed kind file unquoted =>
    rcases file with rfl | rfl
    all_goals
      simp only [work, kind, obey, atFile_unquoted settled unquoted] at h
      exact (congrArg Prod.snd (Option.some.inj h)).symm
  | @unread name error kind quoted valid read =>
    have read' : (s.allow 0).directory.read (Path.ofText name) = .error error := read
    simp only [work, kind, obey, atFile_named settled quoted valid, loadFrom, read', afterFile] at h
    exact (congrArg Prod.snd (Option.some.inj h)).symm
  | @loaded name content cause kind quoted valid read failed =>
    simp only [work, kind, obey, atFile_named settled quoted valid] at h
    obtain ⟨s₁, result, eq, loading⟩ := (s.allow 0).loading (Path.ofText name)
    rw [eq] at h
    cases loading with
    | unread read' => cases read.symm.trans read'
    | failed read' he =>
      obtain rfl := Except.ok.inj (read.symm.trans read')
      have kind := Machine.ingestAll_kind failed
      rw [he] at failed
      cases failed
      exact (congrArg Prod.snd (Option.some.inj h)).symm.trans (Upshot.ofTrouble_cause kind)
    | undecodable read' he =>
      obtain rfl := Except.ok.inj (read.symm.trans read')
      rw [Content.lines, he] at failed
      cases failed
    | loaded read' he =>
      obtain rfl := Except.ok.inj (read.symm.trans read')
      rw [Content.lines, he] at failed
      cases failed
  | unwritten kind quoted valid write =>
    simp only [work, kind, obey, atFile_named settled quoted valid, saveTo, write, afterFile] at h
    exact (congrArg Prod.snd (Option.some.inj h)).symm

theorem worksAtFile_cases {work : Path → Session × Upshot} {line : Text}
    (h : s.atFile line.behindWord work = (s', upshot)) :
    (∃ name, Quotes line.behindWord name ∧ '\x00' ∉ name ∧ work (Path.ofText name) = (s', upshot)) ∨
      (∃ name, Quotes line.behindWord name ∧ '\x00' ∈ name ∧ s' = s ∧
        upshot = .escape .invalidName) ∨
      (∀ name, ¬Quotes line.behindWord name) ∧ s' = s ∧
        upshot = .problem (.cause (nameCause line.behindWord)) := by
  have settled := Text.trimStart_behindWord line
  rcases atFile_cases s work settled with ⟨name, quoted, valid, he⟩ | ⟨name, quoted, null, he⟩ |
    ⟨unquoted, he⟩
  · exact .inl ⟨name, quoted, valid, he.symm.trans h⟩
  · obtain ⟨rfl, rfl⟩ := Prod.mk.inj (he.symm.trans h)
    exact .inr (.inl ⟨name, quoted, null, rfl, rfl⟩)
  · obtain ⟨rfl, rfl⟩ := Prod.mk.inj (he.symm.trans h)
    exact .inr (.inr ⟨unquoted, rfl, rfl⟩)

/-- What the upshot of the work on a line says about the line. -/
def Justified (s : Session) (line : Text) (s' : Session) : Upshot → Prop
  | .done => True
  | .goodbye => LineKind.of line = .command .bye ∧ s' = s
  | .problem problem => s.Meets line problem
  | .escape trouble => s.Escapes line trouble s'

theorem justified_load (kind : LineKind.of line = .command .load)
    (h : s.work turns line = some (s', upshot)) : Justified s line s' upshot := by
  simp only [work, kind, obey, Option.some.injEq] at h
  rcases worksAtFile_cases h with ⟨name, quoted, valid, he⟩ | ⟨name, quoted, null, rfl, rfl⟩ |
    ⟨unquoted, -, rfl⟩
  · obtain ⟨s₁, result, eq, loading⟩ := (s.allow 0).loading (Path.ofText name)
    rw [eq] at he
    cases loading with
    | unread read =>
      cases he
      exact .unread kind quoted valid read
    | @failed content m cause read ingested =>
      have failed : ((s.allow 0).machine.ingestAll content.lines).2 = some cause := by
        rw [ingested]
      obtain ⟨-, rfl⟩ := Prod.mk.inj he
      rw [Upshot.ofTrouble_cause (Machine.ingestAll_kind failed)]
      exact .loaded kind quoted valid read failed
    | undecodable read ingested =>
      cases he
      exact .undecodable kind quoted valid read ingested
    | loaded read ingested =>
      cases he
      exact trivial
  · exact .invalidName kind (.inl rfl) quoted null
  · exact .unnamed kind (.inl rfl) unquoted

theorem justified_save (kind : LineKind.of line = .command .save)
    (h : s.work turns line = some (s', upshot)) : Justified s line s' upshot := by
  simp only [work, kind, obey, Option.some.injEq] at h
  rcases worksAtFile_cases h with ⟨name, quoted, valid, he⟩ | ⟨name, quoted, null, rfl, rfl⟩ |
    ⟨unquoted, -, rfl⟩
  · cases write : s.directory.write (Path.ofText name) s.machine.program.fileText with
    | error error =>
      simp only [saveTo, write, afterFile] at he
      cases he
      exact .unwritten kind quoted valid write
    | ok directory =>
      simp only [saveTo, write] at he
      split at he
      · cases he
        exact trivial
      · rename_i unwritable
        cases he
        exact .unsaved kind quoted valid write (Bool.eq_false_iff.mpr unwritable)
  · exact .invalidName kind (.inr rfl) quoted null
  · exact .unnamed kind (.inr rfl) unquoted

theorem justified_onMachine {worked : Machine × Option Cause}
    (meets : ∀ cause, worked.2 = some cause →
      cause.kind ≠ .conversion ∧ s.Meets line (.cause cause))
    (h : s.onMachine worked = (s', upshot)) : Justified s line s' upshot := by
  rcases worked with ⟨m, _ | cause⟩
  · cases h
    exact trivial
  · obtain ⟨kind, met⟩ := meets cause rfl
    obtain ⟨-, rfl⟩ := Prod.mk.inj h
    rw [Upshot.ofCause?, Upshot.ofTrouble_cause kind]
    exact met

theorem justified_afterRun {m : Machine}
    (meets : ∀ m' failure message, Machine.turns turns m = some (m', some failure) →
      failure.message? = some message → s.Meets line (.failure failure message))
    (escapes : ∀ m' failure, Machine.turns turns m = some (m', some failure) →
      isWritable failure.line = false → s.Escapes line .unwritable { s with machine := m' })
    (h : (Machine.turns turns m).map s.afterRun = some (s', upshot)) :
    Justified s line s' upshot := by
  obtain ⟨⟨m', _ | failure⟩, run, he⟩ := Option.map_eq_some_iff.mp h
  · cases he
    exact trivial
  · obtain ⟨rfl, rfl⟩ := Prod.mk.inj he
    cases told : failure.message? with
    | none =>
      simp only [Upshot.ofFailure?, told, Option.elim_none]
      exact escapes m' failure run ((Machine.turns_message?_eq_none_iff run).mp told)
    | some message =>
      simp only [Upshot.ofFailure?, told, Option.elim_some]
      exact meets m' failure message run told

/-- The work on a line comes to no problem and no end of the prompt but those of the line. -/
theorem justified (h : s.work turns line = some (s', upshot)) : Justified s line s' upshot := by
  cases kind : LineKind.of line with
  | blank =>
    simp only [work, kind] at h
    cases h
    exact trivial
  | numbered =>
    simp only [work, kind, Option.some.injEq] at h
    exact justified_onMachine (fun _ failed => ⟨Machine.ingest_kind failed, .stored kind failed⟩) h
  | statement =>
    simp only [work, kind, Option.some.injEq] at h
    exact justified_onMachine
      (fun _ failed => ⟨Machine.execute_kind failed, .executed kind failed⟩) h
  | command c =>
    cases c with
    | load => exact justified_load kind h
    | save => exact justified_save kind h
    | delete =>
      simp only [work, kind, obey, Option.some.injEq] at h
      exact justified_onMachine
        (fun _ failed => ⟨Machine.deleteAt_kind failed, .deleted kind failed⟩) h
    | run =>
      simp only [work, kind, obey] at h
      exact justified_afterRun (fun _ _ _ => .ran kind) (fun _ _ => .ran kind) h
    | resume =>
      simp only [work, kind, obey] at h
      exact justified_afterRun (fun _ _ _ => .resumed kind) (fun _ _ => .resumed kind) h
    | bye =>
      simp only [work, kind, obey] at h
      cases h
      exact ⟨kind, rfl⟩
    | list =>
      simp only [work, kind, obey, list] at h
      split at h
      · cases h
        exact trivial
      · rename_i unwritable
        cases h
        exact .unlisted kind (Bool.eq_false_iff.mpr unwritable)
    | clear | new =>
      simp only [work, kind, obey] at h
      cases h
      exact trivial

theorem eq_of_escapes (h : s.work turns line = some (s', upshot))
    (escapes : s.Escapes line trouble s'') : (s', upshot) = (s'', .escape trouble) := by
  have settled := Text.trimStart_behindWord line
  have told {ended : Option (Machine × Option Failure)} {m m' : Machine} {failure : Failure}
      {count : Nat} (h : ended.map s.afterRun = some (s', upshot))
      (run : ∀ ended', ended = some ended' → (m', some failure) = ended')
      (ran : Machine.turns count m = some (m', some failure))
      (unwritable : isWritable failure.line = false) :
      (s', upshot) = ({ s with machine := m' }, .escape .unwritable) := by
    obtain ⟨ended, run', after⟩ := Option.map_eq_some_iff.mp h
    obtain rfl := run ended run'
    have untold := (Machine.turns_message?_eq_none_iff ran).mpr unwritable
    simp only [← after, afterRun, Upshot.ofFailure?, untold, Option.elim_none]
  cases escapes with
  | invalidName kind file quoted null =>
    rcases file with rfl | rfl
    all_goals
      simp only [work, kind, obey, atFile_invalid settled quoted null] at h
      exact (Option.some.inj h).symm
  | @undecodable name before m kind quoted valid read ingested =>
    have loaded : (s.allow 0).loadFrom (Path.ofText name) =
        ({ s with machine := m }, .error .undecodable) := by
      have read' : (s.allow 0).directory.read (Path.ofText name) = .ok (.binary before) := read
      simp only [loadFrom, read', Content.lines, ingested]
      rfl
    simp only [work, kind, obey, atFile_named settled quoted valid, loaded, afterFile] at h
    exact (Option.some.inj h).symm
  | unlisted kind unwritable =>
    simp only [work, kind, obey, list, unwritable] at h
    exact (Option.some.inj h).symm
  | unsaved kind quoted valid write unwritable =>
    simp only [work, kind, obey, atFile_named settled quoted valid, saveTo, write, unwritable] at h
    exact (Option.some.inj h).symm
  | ran kind run unwritable =>
    simp only [work, kind, obey] at h
    exact told h (fun _ => Machine.turns_unique run) run unwritable
  | resumed kind run unwritable =>
    simp only [work, kind, obey] at h
    exact told h (fun _ => Machine.turns_unique run) run unwritable

theorem work_of_bye (turns : Nat) (h : LineKind.of line = .command .bye) :
    s.work turns line = some (s, .goodbye) := by
  simp only [work, h, obey]

end Work

section Rest

open Machine

theorem afterFile_resting {α : Type} (done : String) {worked : Session × Except Trouble α}
    (h : worked.1.machine.Resting) : (afterFile done worked).1.machine.Resting := by
  rcases worked with ⟨s', trouble | value⟩
  · exact h
  · exact ⟨h.1.of_eq rfl rfl rfl rfl, h.2⟩

theorem atFile_resting {work : Path → Session × Upshot} (h : s.machine.Resting)
    (worked : ∀ path, (work path).1.machine.Resting) :
    (s.atFile text work).1.machine.Resting := by
  unfold atFile
  split
  · exact h
  · exact h
  · split
    · exact h
    · exact worked _

theorem deleteAt_resting {m : Machine} (h : m.Resting) (text : Text) :
    (m.deleteAt text).1.Resting := by
  unfold deleteAt
  split
  · exact h
  · exact h
  · split
    · exact h
    · exact h.deleteLine ‹_›

theorem saveTo_resting (h : s.machine.Resting) (path : Path) :
    (s.saveTo path).1.machine.Resting := by
  unfold saveTo
  dsimp only
  split
  · exact h
  · split
    · exact h.log _ _ _
    · exact h

theorem work_resting (h : s.machine.Resting) (worked : s.work turns line = some (s', upshot)) :
    s'.machine.Resting := by
  have ran {m : Machine} (coherent : m.Coherent)
      (ended : (Machine.turns turns m).map s.afterRun = some (s', upshot)) :
      s'.machine.Resting := by
    obtain ⟨⟨m', failure⟩, run, he⟩ := Option.map_eq_some_iff.mp ended
    cases he
    exact coherent.turns run
  unfold work at worked
  split at worked
  · cases worked
    exact h
  · cases worked
    exact h.ingest line
  · rename_i c kind
    cases c with
    | bye =>
      cases worked
      exact h
    | list | clear =>
      cases worked
      exact ⟨h.1.of_eq rfl rfl rfl rfl, h.2⟩
    | new =>
      cases worked
      exact ⟨{ h.1 with number_nonneg := nofun, text_trimmed := nofun }, h.2⟩
    | run => exact ran (h.allow 1).1.restarted worked
    | resume => exact ran (h.allow 2).1.resumed worked
    | delete =>
      obtain rfl : (s.onMachine (s.machine.deleteAt line.behindWord)).1 = s' :=
        congrArg Prod.fst (Option.some.inj worked)
      exact deleteAt_resting h _
    | load =>
      obtain rfl : (s.atFile line.behindWord fun path =>
          afterFile "File loaded" ((s.allow 0).loadFrom path)).1 = s' :=
        congrArg Prod.fst (Option.some.inj worked)
      exact atFile_resting h fun path => afterFile_resting _ (loadFrom_resting (h.allow 0) path)
    | save =>
      obtain rfl : (s.atFile line.behindWord fun path =>
          afterFile "File saved" (s.saveTo path)).1 = s' :=
        congrArg Prod.fst (Option.some.inj worked)
      exact atFile_resting h fun path => afterFile_resting _ (saveTo_resting h path)
  · cases worked
    exact (h.allow 3).execute line

end Rest

/-- The run that a line begins or continues, if it does, ends. -/
structure RunEnds (s : Session) (line : Text) : Prop where
  run : LineKind.of line = .command .run →
    ∃ count ended, (s.allow 1).machine.runFor count = some ended
  resume : LineKind.of line = .command .resume →
    ∃ count ended, (s.allow 2).machine.continueFor count = some ended

theorem RunEnds.exists_work (h : s.RunEnds line) :
    ∃ turns worked, s.work turns line = some worked := by
  unfold work
  cases kind : LineKind.of line with
  | blank => exact ⟨0, _, rfl⟩
  | numbered => exact ⟨0, _, rfl⟩
  | statement => exact ⟨0, _, rfl⟩
  | command c =>
    cases c with
    | run =>
      obtain ⟨count, ended, run⟩ := h.run kind
      exact ⟨count, _, Option.map_eq_some_iff.mpr ⟨ended, run, rfl⟩⟩
    | resume =>
      obtain ⟨count, ended, run⟩ := h.resume kind
      exact ⟨count, _, Option.map_eq_some_iff.mpr ⟨ended, run, rfl⟩⟩
    | _ => exact ⟨0, _, rfl⟩

/-- What becomes of a line that was handled. -/
structure Handled (turns : Nat) (s : Session) (line : Text) (s' : Session) (reply : Reply) :
    Prop where
  goodbye : reply = .goodbye ↔
    Machine.isNumbered line = false ∧ line.leadingWord = ['b', 'y', 'e']
  escaped : ∀ trouble after, (reply = .escaped trouble ∧ s' = after) ↔ s.Escapes line trouble after
  more : reply = .more ↔
    ¬(Machine.isNumbered line = false ∧ line.leadingWord = ['b', 'y', 'e']) ∧
      ∀ trouble after, ¬s.Escapes line trouble after
  reported : ∃ logs report,
    s'.machine.console.errors = s.machine.console.errors ++ logs ++ report ∧
      (s.machine.console.verbose = false → logs = "") ∧
      (report ≠ "" ↔ ∃ problem, s.Meets line problem) ∧
      ∀ problem, s.Meets line problem → reply = .more ∧ report = problem.message ++ "\n"
  resting : s.machine.Resting → s'.machine.Resting
  onward : reply = .more → ∀ before : Session,
    (before.update (·.write prompt)).nextLine = (some line, s) →
      before.loop (turns + 1) = s'.loop turns

section Report

variable {reply : Reply} (worked : s.work turns line = some (s', upshot))
include worked

theorem upshot_goodbye_iff : upshot = .goodbye ↔
    Machine.isNumbered line = false ∧ line.leadingWord = Command.bye.spelling := by
  rw [← LineKind.of_eq_command_iff]
  constructor
  · rintro rfl
    exact (justified worked).1
  · intro kind
    exact congrArg Prod.snd (Option.some.inj (worked.symm.trans (work_of_bye turns kind)))

theorem upshot_escape_iff {after : Session} :
    (s', upshot) = (after, .escape trouble) ↔ s.Escapes line trouble after := by
  constructor
  · rintro ⟨⟩
    exact justified worked
  · intro escapes
    exact eq_of_escapes worked escapes

theorem upshot_problem_iff : upshot = .problem problem ↔ s.Meets line problem := by
  constructor
  · rintro rfl
    exact justified worked
  · exact upshot_of_meets worked

/-- What is reported stands behind the log on the error channel. -/
theorem exists_reported : ∃ logs report,
    (Session.report (s', upshot)).1.machine.console.errors =
        s.machine.console.errors ++ logs ++ report ∧
      (s.machine.console.verbose = false → logs = "") ∧
      (report ≠ "" ↔ ∃ problem, upshot = .problem problem) ∧
      ∀ problem, upshot = .problem problem → report = problem.message ++ "\n" := by
  obtain ⟨logs, errors, quiet⟩ := (work_talks worked).errors
  have unreported : s'.machine.console.errors = s.machine.console.errors ++ logs ++ "" := by
    rw [errors, String.append_empty]
  cases upshot with
  | problem problem =>
    refine ⟨logs, problem.message ++ "\n", ?_, quiet, ?_, ?_⟩
    · rw [← errors]
      rfl
    · have nonempty : problem.message ++ "\n" ≠ "" := by
        intro none
        have length := congrArg String.length none
        rw [String.length_append] at length
        exact absurd length (Nat.succ_ne_zero _)
      exact ⟨fun _ => ⟨problem, rfl⟩, fun _ => nonempty⟩
    · rintro _ ⟨⟩
      rfl
  | _ => exact ⟨logs, "", unreported, quiet, by simp, nofun⟩

theorem handled_of_work (h : Session.report (s', upshot) = (s'', reply)) :
    Handled turns s line s'' reply := by
  have bye := upshot_goodbye_iff worked
  have escape {trouble : Trouble} {after : Session} :
      (s', upshot) = (after, .escape trouble) ↔ s.Escapes line trouble after :=
    upshot_escape_iff worked
  have met {problem : Problem} : upshot = .problem problem ↔ s.Meets line problem :=
    upshot_problem_iff worked
  have handled : s.handle turns line = some (s'', reply) := by
    rw [handle_eq, worked, Option.map_some, h]
  obtain ⟨logs, report, errors, quiet, some_iff, each⟩ := exists_reported worked
  rw [h] at errors
  constructor
  case goodbye =>
    refine Iff.trans ?_ bye
    cases upshot <;> cases h <;> simp
  case escaped =>
    intro trouble after
    refine Iff.trans ?_ escape
    cases upshot <;> cases h <;> simp [and_comm]
  case more =>
    have parted : reply = .more ↔
        ¬upshot = .goodbye ∧ ∀ trouble after, ¬(s', upshot) = (after, .escape trouble) := by
      cases upshot <;> cases h <;> simp
    rw [parted, bye]
    simp only [escape]
    rfl
  case reported =>
    simp only [met] at some_iff each
    refine ⟨logs, report, errors, quiet, some_iff, fun problem meets => ⟨?_, each problem meets⟩⟩
    obtain rfl := met.mpr meets
    cases h
    rfl
  case resting =>
    intro rest
    have rest' := work_resting rest worked
    cases upshot <;> cases h
    case problem => exact ⟨rest'.1.of_eq rfl rfl rfl rfl, rest'.2⟩
    all_goals exact rest'
  case onward =>
    rintro rfl before next
    rw [loop, next]
    simp only [handled]

end Report

/-- Every line at the prompt on which the run ends that it begins is handled. It ends the
prompt with `bye`, with an invalid file name, with a file that is no text or where a line number
cannot be written, and otherwise the prompt goes on, after a report if the line has met a
problem. -/
theorem handle_contained (ends : s.RunEnds line) :
    (∃ turns s' reply, s.handle turns line = some (s', reply)) ∧
      ∀ turns s' reply, s.handle turns line = some (s', reply) → Handled turns s line s' reply := by
  constructor
  · obtain ⟨turns, worked, h⟩ := ends.exists_work
    refine ⟨turns, (Session.report worked).1, (Session.report worked).2, ?_⟩
    rw [handle_eq, h, Option.map_some]
  · intro turns s' reply handled
    rw [handle_eq] at handled
    obtain ⟨⟨after, upshot⟩, worked, reported⟩ := Option.map_eq_some_iff.mp handled
    exact handled_of_work worked reported

/-- A run that fails is reported with its line and column, and the prompt goes on. -/
theorem failing_run_contained :
    let m := (Machine.fresh 0 0 (.ofInput [])).storeLine 10 ['N', 'E', 'X', 'T', ' ', 'I']
    let s : Session := ⟨m, ⟨[], Table.empty⟩, 0⟩
    ∃ s', s.RunEnds ['r', 'u', 'n'] ∧ s.handle 5 ['r', 'u', 'n'] = some (s', .more) ∧
      Handled 5 s ['r', 'u', 'n'] s' .more ∧
      s'.machine.console.errors = "Variable not found: i in line 10, column 6\n" := by
  intro m s
  have kind : LineKind.of ['r', 'u', 'n'] = .command .run := by decide +kernel
  have ends : s.RunEnds ['r', 'u', 'n'] := by
    have some : ((s.allow 1).machine.runFor 1).isSome = true := by decide +kernel
    refine ⟨fun _ => ⟨1, Option.isSome_iff_exists.mp some⟩, fun resume => ?_⟩
    cases kind.symm.trans resume
  have outcome : (s.handle 5 ['r', 'u', 'n']).any (fun handled =>
      decide (handled.2 = .more) && handled.1.machine.console.errors ==
        "Variable not found: i in line 10, column 6\n") = true := by
    decide +kernel
  obtain ⟨⟨s', reply⟩, handled, facts⟩ := (Option.any_eq_true _ _).mp outcome
  simp only [Bool.and_eq_true, decide_eq_true_eq, beq_iff_eq] at facts
  obtain ⟨rfl, errors⟩ := facts
  exact ⟨s', ends, handled, (handle_contained ends).2 5 s' .more handled, errors⟩

/-- A file that is no text is not refused as a whole: what is decoded before the end of the
first of these two files is ingested, and in the second a line fails before. A program with a number
that cannot be written ends the prompt when it is listed. -/
theorem cut_file_ingested_and_long_number_unlisted :
    let cut : List UInt8 := [0x31, 0x30, 0x20, 0x52, 0x45, 0x4D, 0x0A, 0xC3]
    let failing : List UInt8 := [0x3F, 0x0A, 0xC3]
    let line : Text := ['l', 'o', 'a', 'd', ' ', '"', 'f', '"']
    let s (octets : List UInt8) : Session := ⟨.fresh 0 0 (.ofInput []),
      ⟨[], Table.empty.insert [['f']] (.ofOctets octets)⟩, 0⟩
    (∀ text, cut ≠ Utf8.encode text ∧ failing ≠ Utf8.encode text) ∧
      (∃ s', (s cut).handle 0 line = some (s', .escaped .undecodable) ∧
        s'.machine.program.lineNumbers = [10]) ∧
      (∃ s', (s failing).handle 0 line = some (s', .more)) ∧
      ∃ s', ((s []).update (·.storeLine (10 ^ integerDigits) [])).handle 0 ['l', 'i', 's', 't'] =
        some (s', .escaped .unwritable) := by
  intro cut failing line s
  have binary : Content.ofOctets cut = .binary ['1', '0', ' ', 'R', 'E', 'M', '\n'] := by
    decide +kernel
  have binary' : Content.ofOctets failing = .binary ['?', '\n'] := by decide +kernel
  refine ⟨fun text => ⟨(Content.ofOctets_binary binary).1 text,
    (Content.ofOctets_binary binary').1 text⟩, ?_, ?_, ?_⟩
  · have outcome : ((s cut).handle 0 line).any (fun handled =>
        decide (handled.2 = .escaped .undecodable) &&
          handled.1.machine.program.lineNumbers == [10]) = true := by
      decide +kernel
    obtain ⟨⟨s', reply⟩, handled, facts⟩ := (Option.any_eq_true _ _).mp outcome
    simp only [Bool.and_eq_true, decide_eq_true_eq, beq_iff_eq] at facts
    obtain ⟨rfl, stored⟩ := facts
    exact ⟨s', handled, stored⟩
  · have outcome : ((s failing).handle 0 line).any (fun handled =>
        decide (handled.2 = .more)) = true := by
      decide +kernel
    obtain ⟨⟨s', reply⟩, handled, more⟩ := (Option.any_eq_true _ _).mp outcome
    obtain rfl := of_decide_eq_true more
    exact ⟨s', handled⟩
  · have kind : LineKind.of ['l', 'i', 's', 't'] = .command .list := by decide +kernel
    have unwritable : isWritable (10 ^ integerDigits) = false := by
      simp [Bool.eq_false_iff, isWritable_iff, Int.natAbs_pow]
    generalize (10 ^ integerDigits : Int) = n at unwritable
    let long := (s []).update (·.storeLine n [])
    have unlisted : long.list = (long.list.1, .escape .unwritable) :=
      Prod.ext rfl (if_neg (Bool.eq_false_iff.mp (congrArg (· && true) unwritable :)))
    refine ⟨long.list.1, (long.handle_eq 0 _).trans ?_⟩
    simp only [work, kind, obey]
    exact congrArg (fun listed => some (report listed)) unlisted

end Session

end NumberedBasic
