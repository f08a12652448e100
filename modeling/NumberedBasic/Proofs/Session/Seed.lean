import NumberedBasic.Proofs.Program.History
import NumberedBasic.Proofs.Run.Seed

/-! # Sessions with different seeds

A seed decides the random numbers and nothing else. Sessions that are started with different seeds,
and that are asked for the same things at different times, differ in nothing but their random
numbers, as long as no text that they are told contains the name of the function that draws them.
-/

namespace NumberedBasic

namespace Machine

variable {functions : List Builtin}

theorem lineEdits_lack {line text : Text} {number : Int} (lacks : line.Lacks functions)
    (stored : .store number text ∈ lineEdits line) : text.Lacks functions := by
  have reached := (Cursor.start line.trimStart).lineNumber_reaches
  obtain ⟨n, c, scanned, -, rfl⟩ := store_mem_lineEdits_iff.mp stored
  rw [scanned] at reached
  exact lacks.of_isInfix (reached.rest_suffix.trans line.trimStart_suffix).isInfix

theorem linesEdits_lack {m : Machine} {lines : List Text} {text : Text} {number : Int}
    (lacks : ∀ line ∈ lines, line.Lacks functions)
    (stored : .store number text ∈ m.linesEdits lines) : text.Lacks functions := by
  obtain ⟨line, hl, made⟩ := exists_line_of_mem_linesEdits stored
  exact lineEdits_lack (lacks line hl) made

theorem Unseeded.ingestAll {others : List Builtin} {m m' : Machine} (h : Unseeded others m m')
    {lines : List Text} (lacks : ∀ line ∈ lines, line.Lacks (.rnd :: others)) :
    Unseeded others (m.ingestAll lines).1 (m'.ingestAll lines).1 ∧
      (m.ingestAll lines).2 = (m'.ingestAll lines).2 := by
  induction lines generalizing m m' with
  | nil => exact ⟨h, rfl⟩
  | cons line lines ih =>
    obtain ⟨first, further⟩ := List.forall_mem_cons.mp lacks
    obtain ⟨machines, causes⟩ := h.ingest first
    unfold Machine.ingestAll
    generalize m.ingest line = r at machines causes ⊢
    generalize m'.ingest line = r' at machines causes ⊢
    obtain ⟨next, cause⟩ := r
    obtain ⟨next', _⟩ := r'
    obtain rfl := causes
    split
    · exact ih h further
    · cases cause with
      | none => exact ih machines further
      | some cause => exact ⟨machines, rfl⟩

end Machine

namespace Program.Lacks

variable {functions : List Builtin} {p : Program}

theorem edited (h : p.Lacks functions) {edits : List Edit}
    (stored : ∀ number text, .store number text ∈ edits → text.Lacks functions) :
    (p.edited edits).Lacks functions := by
  intro number shown held
  rcases stored_of_get?_edited held with held | ⟨text, made, rfl⟩
  · exact h number shown held
  · exact (stored number text made).of_isInfix text.trim_isInfix

end Program.Lacks

namespace Session

open Machine

def told (s : Session) : Operation → List Text
  | .ingest text => [text]
  | .execute text => [text]
  | .load name =>
    match path? name with
    | .error _ => []
    | .ok path =>
      match s.directory.read path with
      | .ok content => content.lines
      | .error _ => []
  | _ => []

def seedless (s : Session) : Session :=
  s.update Machine.seedless

def shown (r : Session × Answer) : Session × Answer :=
  (r.1.seedless, r.2)

/-- The operation is answered the same at any time. It does not call the timer, or nothing comes of
the call. New random numbers may be made from the time, since they are not shown. -/
def Untimed (s : Session) (operation : Operation) : Prop :=
  ∀ clock, ((s.update fun m => { m with clock }).answer operation).map shown =
    (s.answer operation).map shown

section Programs

variable {s t : Session} {operation : Operation} {result : Answer} {functions : List Builtin}

theorem edits_lack (told : ∀ text ∈ s.told operation, text.Lacks functions) {number : Int}
    {text : Text} (stored : .store number text ∈ s.edits operation) : text.Lacks functions := by
  cases operation with
  | ingest line => exact lineEdits_lack (told line List.mem_cons_self) stored
  | new => cases List.mem_singleton.mp stored
  | delete number =>
    simp only [edits] at stored
    split at stored
    · cases List.mem_singleton.mp stored
    · cases stored
  | load name =>
    simp only [edits] at stored
    simp only [Session.told] at told
    split at stored
    · cases stored
    · rename_i path named
      rw [named] at told
      dsimp only at told
      split at stored
      · rename_i content read
        rw [show s.directory.read path = .ok content from read] at told
        exact linesEdits_lack told stored
      · cases stored
  | _ => cases stored

theorem program_answer (answer : s.answer operation = some (t, result)) :
    t.machine.program = s.machine.program.edited (s.edits operation) := by
  by_cases run : ∃ turns, operation = .run turns
  · obtain ⟨turns, rfl⟩ := run
    obtain ⟨⟨m, failure⟩, ran, ended⟩ := Option.map_eq_some_iff.mp answer
    cases ended
    obtain ⟨errors, begun⟩ := (s.allow 3).machine.exists_restarted_eq
    refine (Edited.turns ran).program.trans ?_
    rw [begun]
    rfl
  · exact (edited_answer (fun turns h => run ⟨turns, h⟩) answer).program

/-- A program contains no names but those that the session was told. -/
theorem lacks_answer (program : s.machine.program.Lacks functions)
    (told : ∀ text ∈ s.told operation, text.Lacks functions)
    (answer : s.answer operation = some (t, result)) : t.machine.program.Lacks functions := by
  rw [program_answer answer]
  exact program.edited fun _ _ stored => edits_lack told stored

end Programs

section Answers

variable {others : List Builtin} {m m' : Machine} {d : Directory} {room : Nat}

theorem shown_eq (h : Unseeded others m m') (result : Answer) :
    shown (⟨m, d, room⟩, result) = shown (⟨m', d, room⟩, result) :=
  congrArg (fun m => ((⟨m, d, room⟩ : Session), result)) h.seedless

theorem ended_shown {ends ends' : Option (Machine × Option Failure)}
    (h : Option.Rel (fun r r' => Unseeded others r.1 r'.1 ∧ r.2 = r'.2) ends ends') :
    (ends.map fun (m, failure) => ((⟨m, d, room⟩ : Session), Answer.ended failure)).map shown =
      (ends'.map fun (m, failure) =>
        ((⟨m, d, room⟩ : Session), Answer.ended failure)).map shown := by
  cases h with
  | none => rfl
  | @some r r' related =>
    obtain ⟨m, failure⟩ := r
    obtain ⟨m', _⟩ := r'
    obtain ⟨machines, rfl⟩ := related
    exact congrArg some (shown_eq machines _)

theorem loadFrom_shown (h : Unseeded others m m') {path : Path}
    (lacks : ∀ content, d.read path = .ok content →
      ∀ line ∈ content.lines, line.Lacks (.rnd :: others)) :
    ((⟨m, d, room⟩ : Session).loadFrom path).1.seedless =
      ((⟨m', d, room⟩ : Session).loadFrom path).1.seedless ∧
      ((⟨m, d, room⟩ : Session).loadFrom path).2 = ((⟨m', d, room⟩ : Session).loadFrom path).2 := by
  have place {m m' : Machine} (h : Unseeded others m m') :
      (⟨m, d, room⟩ : Session).seedless = (⟨m', d, room⟩ : Session).seedless :=
    congrArg (Session.mk · d room) h.seedless
  unfold loadFrom
  cases read : d.read path with
  | error error => exact ⟨place h, rfl⟩
  | ok content =>
    obtain ⟨machines, causes⟩ := h.ingestAll (lacks content read)
    dsimp only
    generalize m.ingestAll content.lines = r at machines causes ⊢
    generalize m'.ingestAll content.lines = r' at machines causes ⊢
    obtain ⟨next, cause⟩ := r
    obtain ⟨next', _⟩ := r'
    obtain rfl := causes
    rcases cause with _ | cause
    · cases content with
      | text text => exact ⟨place (machines.log _ _ _), rfl⟩
      | binary before => exact ⟨place machines, rfl⟩
    · exact ⟨place machines, rfl⟩

theorem saveTo_shown (h : Unseeded others m m') (path : Path) :
    ((⟨m, d, room⟩ : Session).saveTo path).1.seedless =
      ((⟨m', d, room⟩ : Session).saveTo path).1.seedless ∧
      ((⟨m, d, room⟩ : Session).saveTo path).2 = ((⟨m', d, room⟩ : Session).saveTo path).2 := by
  have program : m.program = m'.program := h.same (f := (·.program)) fun _ => rfl
  unfold saveTo
  dsimp only
  rw [← program]
  cases d.write path m.program.fileText with
  | error error => exact ⟨congrArg (Session.mk · d room) h.seedless, rfl⟩
  | ok directory =>
    dsimp only
    split
    · have saved : (m.logSaved path.text).seedless = (m'.logSaved path.text).seedless := by
        unfold logSaved
        rw [← program]
        exact (h.log _ _ _).seedless
      exact ⟨congrArg (Session.mk · directory room) saved, rfl⟩
    · exact ⟨congrArg (Session.mk · directory room) h.seedless, rfl⟩

theorem answer_shown (h : Unseeded others m m') {operation : Operation}
    (program : m.program.Lacks (.rnd :: others))
    (lacks : ∀ text ∈ (⟨m, d, room⟩ : Session).told operation, text.Lacks (.rnd :: others)) :
    ((⟨m, d, room⟩ : Session).answer operation).map shown =
      ((⟨m', d, room⟩ : Session).answer operation).map shown := by
  have allowed (calls : Nat) : Machine.Unseeded others
      ((⟨m, d, room⟩ : Session).allow calls).machine
      ((⟨m', d, room⟩ : Session).allow calls).machine := h.allow (room + calls)
  cases operation with
  | ingest text =>
    obtain ⟨machines, causes⟩ := (allowed 3).ingest (lacks text List.mem_cons_self)
    simp only [answer, causes]
    exact congrArg some (shown_eq machines _)
  | execute text =>
    obtain ⟨machines, causes⟩ := (allowed 4).execute (lacks text List.mem_cons_self)
    simp only [answer, causes]
    exact congrArg some (shown_eq machines _)
  | assign name value =>
    have assigned := h.map (f := (·.assign name value)) (fun _ => rfl) fun _ => rfl
    exact congrArg some (shown_eq assigned _)
  | clear =>
    have cleared := h.map (f := Machine.clear) (fun _ => rfl) fun _ => rfl
    exact congrArg some (shown_eq cleared _)
  | new =>
    have emptied := h.map (f := Machine.new) (fun _ => rfl) fun _ => rfl
    exact congrArg some (shown_eq emptied _)
  | delete number =>
    rcases h.deleteLine number with ⟨next, next', done, done', machines⟩ | ⟨cause, failed, failed'⟩
    · simp only [answer, done, done']
      exact congrArg some (shown_eq machines _)
    · simp only [answer, failed, failed']
      exact congrArg some (shown_eq h _)
  | run turns => exact ended_shown ((allowed 3).runFor program turns)
  | resume turns => exact ended_shown ((allowed 4).continueFor program turns)
  | load name =>
    rcases named : path? name with trouble | path
    · simp only [answer, load, named]
      exact congrArg some (shown_eq (allowed 2) _)
    · have lines (content : Content) (read : d.read path = .ok content) :
          ∀ line ∈ content.lines, line.Lacks (.rnd :: others) := by
        simpa only [told, named, read] using lacks
      obtain ⟨sessions, results⟩ := loadFrom_shown (allowed 2) lines
      simp only [answer, load, named]
      exact congrArg some (Prod.ext sessions (congrArg Answer.loaded results))
  | save name =>
    simp only [answer, save]
    rcases path? name with trouble | path
    · exact congrArg some (shown_eq h _)
    · obtain ⟨sessions, results⟩ := saveTo_shown h path
      exact congrArg some (Prod.ext sessions (congrArg Answer.saved results))

end Answers

theorem untimed_of_lacks {s : Session} {operation : Operation}
    (program : s.machine.program.Lacks [.rnd, .timer])
    (told : ∀ text ∈ s.told operation, text.Lacks [.rnd, .timer]) : s.Untimed operation := by
  intro clock
  have later : Unseeded [.timer] { s.machine with clock } s.machine :=
    ⟨rfl, .inr List.mem_cons_self⟩
  exact answer_shown later program told

/-- Two sessions are started with two seeds and asked for the same. No text that they are told
contains the letters of `rnd`, and no operation calls the timer, unless they are asked for it at the
same time. Time may pass between the operations, and the channels and the files may change in the
same way. -/
inductive Reseeded : Session → Session → Prop where
  | fresh (seed seed' : Int) (clock clock' : Clock) (console : Console) (directory : Directory)
      (room : Nat) : Reseeded ⟨.fresh seed clock console, directory, room⟩
        ⟨.fresh seed' clock' console, directory, room⟩
  | answered {s s' t t' : Session} {operation : Operation} {result result' : Answer}
      (earlier : Reseeded s s') (undrawn : ∀ text ∈ s.told operation, text.Lacks [.rnd])
      (untimed : s.machine.clock = s'.machine.clock ∨ s.Untimed operation)
      (answer : s.answer operation = some (t, result))
      (answer' : s'.answer operation = some (t', result')) : Reseeded t t'
  | meanwhile {s s' : Session} (earlier : Reseeded s s') (clock clock' : Clock)
      (console : Console) (directory : Directory) (room : Nat) :
      Reseeded ⟨{ s.machine with clock, console }, directory, room⟩
        ⟨{ s'.machine with clock := clock', console }, directory, room⟩

section Pairs

variable {s s' : Session} {operation : Operation}

theorem Reseeded.program_lacks (h : Reseeded s s') : s.machine.program.Lacks [.rnd] := by
  induction h with
  | fresh => exact Program.lacks_empty _
  | answered earlier undrawn untimed answer answer' program =>
    exact lacks_answer program undrawn answer
  | meanwhile earlier clock clock' console directory room program => exact program

/-- Sessions that differ in random numbers and time alone answer alike where neither shows. -/
theorem answer_eq_of_seedless (same : s.seedless = s'.seedless)
    (program : s.machine.program.Lacks [.rnd])
    (undrawn : ∀ text ∈ s.told operation, text.Lacks [.rnd])
    (untimed : s.machine.clock = s'.machine.clock ∨ s.Untimed operation) :
    (s.answer operation).map shown = (s'.answer operation).map shown := by
  obtain ⟨m, d, room⟩ := s
  obtain ⟨m', d', room'⟩ := s'
  obtain ⟨machines, rfl, rfl⟩ := Session.mk.inj same
  rcases untimed with clock | untimed
  · have now : Unseeded [] m m' := ⟨machines, .inl clock⟩
    exact answer_shown now program undrawn
  · have now : Unseeded [] { m with clock := m'.clock } m' := ⟨machines, .inl rfl⟩
    -- the time is changed first, which does not show, and then the random numbers at this time
    calc ((⟨m, d, room⟩ : Session).answer operation).map shown
        = ((⟨{ m with clock := m'.clock }, d, room⟩ : Session).answer operation).map shown :=
          (untimed m'.clock).symm
      _ = ((⟨m', d, room⟩ : Session).answer operation).map shown := answer_shown now program undrawn

theorem Reseeded.told {t t' : Session} {result result' : Answer} (h : Reseeded s s')
    (program : s.machine.program.Lacks [.rnd, .timer])
    (told : ∀ text ∈ s.told operation, text.Lacks [.rnd, .timer])
    (answer : s.answer operation = some (t, result))
    (answer' : s'.answer operation = some (t', result')) :
    Reseeded t t' ∧ t.machine.program.Lacks [.rnd, .timer] := by
  have undrawn : ∀ text ∈ s.told operation, text.Lacks [.rnd] := fun text ht =>
    List.forall_mem_singleton.mpr (List.forall_mem_cons.mp (told text ht)).1
  exact ⟨.answered h undrawn (.inr (untimed_of_lacks program told)) answer answer',
    lacks_answer program told answer⟩

theorem Reseeded.seedless (h : Reseeded s s') : s.seedless = s'.seedless := by
  induction h with
  | fresh => simp only [Session.seedless, update, Machine.seedless, Machine.fresh]
  | answered earlier undrawn untimed answer answer' same =>
    have both := answer_eq_of_seedless same earlier.program_lacks undrawn untimed
    rw [answer, answer'] at both
    exact congrArg Prod.fst (Option.some.inj both)
  | meanwhile earlier clock clock' console directory room same =>
    exact congrArg (fun s : Session => (⟨{ s.machine with console }, directory, room⟩ : Session))
      same

/-- The seed influences nothing but the random numbers: sessions with different seeds are the same
in everything else at any time, and answer the same to whatever they are asked for next. -/
theorem seed_ignored (h : Reseeded s s') :
    s.seedless = s'.seedless ∧ ∀ ⦃operation : Operation⦄,
      (∀ text ∈ s.told operation, text.Lacks [.rnd]) →
      s.machine.clock = s'.machine.clock ∨ s.Untimed operation →
        (s.answer operation).map shown = (s'.answer operation).map shown :=
  ⟨h.seedless, fun _ undrawn untimed =>
    answer_eq_of_seedless h.seedless h.program_lacks undrawn untimed⟩

end Pairs

/-- New seeds in a program do not show, neither given ones nor those that are made from the time. -/
theorem new_seeds_unseen :
    ∃ s s' t t' : Session, Reseeded s s' ∧ s.machine.clock ≠ s'.machine.clock ∧
      s.answer (.run 4) = some (t, .ended none) ∧ s'.answer (.run 4) = some (t', .ended none) ∧
      t.seedless = t'.seedless ∧ t.machine.console.output = "2\n" := by
  let late : Text := ['1', '0', 'R', 'a', 'n', 'd', 'o', 'm', 'i', 'z', 'e']
  let given : Text := ['2', '0', 'R', 'A', 'N', 'D', 'O', 'M', 'I', 'Z', 'E', ' ', '5']
  let printing : Text := ['3', '0', 'P', 'R', 'I', 'N', 'T', ' ', '2']
  let s₀ : Session := ⟨.fresh 0 0 (.ofInput []), ⟨[], Table.empty⟩, 0⟩
  let s₁ := s₀.update fun _ => ((s₀.allow 3).machine.ingest late).1
  let s₂ := s₁.update fun _ => ((s₁.allow 3).machine.ingest given).1
  let s := s₂.update fun _ => ((s₂.allow 3).machine.ingest printing).1
  let s₀' : Session := ⟨.fresh 1 7 (.ofInput []), ⟨[], Table.empty⟩, 0⟩
  let s₁' := s₀'.update fun _ => ((s₀'.allow 3).machine.ingest late).1
  let s₂' := s₁'.update fun _ => ((s₁'.allow 3).machine.ingest given).1
  let s' := s₂'.update fun _ => ((s₂'.allow 3).machine.ingest printing).1
  have lacks : ∀ text ∈ [late, given, printing], text.Lacks [.rnd, .timer] := by decide +kernel
  have told (text : Text) (ht : text ∈ [late, given, printing]) (s : Session) :
      ∀ line ∈ s.told (.ingest text), line.Lacks [.rnd, .timer] :=
    List.forall_mem_singleton.mpr (lacks text ht)
  have first : s₀.answer (.ingest late) = some (s₁, .done _) := rfl
  have first' : s₀'.answer (.ingest late) = some (s₁', .done _) := rfl
  have second : s₁.answer (.ingest given) = some (s₂, .done _) := rfl
  have second' : s₁'.answer (.ingest given) = some (s₂', .done _) := rfl
  have third : s₂.answer (.ingest printing) = some (s, .done _) := rfl
  have third' : s₂'.answer (.ingest printing) = some (s', .done _) := rfl
  have fresh : Reseeded s₀ s₀' := .fresh 0 1 0 7 _ _ 0
  obtain ⟨pair₁, program₁⟩ := fresh.told (Program.lacks_empty _)
    (told late (by simp) s₀) first first'
  obtain ⟨pair₂, program₂⟩ := pair₁.told program₁ (told given (by simp) s₁) second second'
  obtain ⟨pair, program⟩ := pair₂.told program₂ (told printing (by simp) s₂) third third'
  obtain ⟨m, run, output⟩ : ∃ m, (s.allow 3).machine.runFor 4 = some (m, none) ∧
      m.console.output = "2\n" := Machine.exists_ended_well (by decide +kernel)
  have answer : s.answer (.run 4) = some ({ s with machine := m }, .ended none) := by
    simp only [Session.answer, run, Option.map_some]
  have undrawn : ∀ text ∈ s.told (.run 4), text.Lacks [.rnd] := List.forall_mem_nil _
  have same := (seed_ignored pair).2 undrawn
    (.inr (untimed_of_lacks program (List.forall_mem_nil _)))
  rw [answer] at same
  obtain ⟨⟨t', result⟩, answer', seen⟩ := Option.map_eq_some_iff.mp same.symm
  obtain ⟨sessions, results⟩ := Prod.mk.inj seen
  obtain rfl : result = .ended none := results
  exact ⟨s, s', _, t', pair, by decide, answer, answer', sessions.symm, output⟩

end Session

end NumberedBasic
