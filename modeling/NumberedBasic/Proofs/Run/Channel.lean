import Mathlib.Order.Basic
import NumberedBasic.Proofs.Run.Pause
import NumberedBasic.Proofs.Statement.Failure

/-! # The channels of a run

The input is made of pieces that end with line feeds. An input statement uses the next piece
as its whole answer and nothing else is read, so the answers to a run are known from its
turns. What was written on the other channels stays.
-/

namespace NumberedBasic

namespace Text

/-- The pieces of a text, which is cut behind each line feed. -/
def pieces : Text → List Text
  | [] => []
  | c :: rest =>
    if c = '\n' then [c] :: pieces rest
    else
      match pieces rest with
      | [] => [[c]]
      | piece :: others => (c :: piece) :: others

theorem firstLine_cons {c : Char} (h : c ≠ '\n') (rest : Text) :
    firstLine (c :: rest) = (c :: (firstLine rest).1, (firstLine rest).2) := by
  have ahead : (c != '\n') = true := bne_iff_ne.mpr h
  simp only [firstLine, List.dropWhile_cons, List.takeWhile_cons, ahead, if_true]
  split <;> rfl

/-- The first piece is the line that is read next. -/
theorem pieces_eq {text : Text} (h : text ≠ []) :
    text.pieces = (firstLine text).1 :: (firstLine text).2.pieces := by
  induction text with
  | nil => exact absurd rfl h
  | cons c rest ih =>
    rw [pieces]
    by_cases feed : c = '\n'
    · subst feed
      rfl
    · rw [if_neg feed, firstLine_cons feed]
      rcases eq_or_ne rest [] with rfl | more
      · rfl
      · rw [ih more]

end Text

namespace Console

/-- Some pieces of the input were read as answers, and something may have been written. -/
structure Talks (c : Console) (answers : List Text) (c' : Console) : Prop where
  input : c.input.pieces = answers ++ c'.input.pieces
  output : ∃ written, c'.output = c.output ++ written
  errors : ∃ logs, c'.errors = c.errors ++ logs ∧ (c.verbose = false → logs = "")
  verbose : c'.verbose = c.verbose

variable {c c' c'' : Console} {answers answers' : List Text}

theorem Talks.refl (c : Console) : c.Talks [] c :=
  ⟨rfl, ⟨"", (String.append_empty).symm⟩, ⟨"", (String.append_empty).symm, fun _ => rfl⟩, rfl⟩

theorem Talks.trans (h : c.Talks answers c') (h' : c'.Talks answers' c'') :
    c.Talks (answers ++ answers') c'' where
  input := by rw [h.input, h'.input, List.append_assoc]
  output := by
    obtain ⟨written, hw⟩ := h.output
    obtain ⟨written', hw'⟩ := h'.output
    exact ⟨written ++ written', by rw [hw', hw, String.append_assoc]⟩
  errors := by
    obtain ⟨logs, hl, quiet⟩ := h.errors
    obtain ⟨logs', hl', quiet'⟩ := h'.errors
    refine ⟨logs ++ logs', by rw [hl', hl, String.append_assoc], fun hq => ?_⟩
    rw [quiet hq, quiet' (h.verbose.trans hq), String.append_empty]
  verbose := h'.verbose.trans h.verbose

theorem Talks.trans_nil (h : c.Talks answers c') (h' : c'.Talks [] c'') : c.Talks answers c'' := by
  simpa using h.trans h'

theorem Talks.write (c : Console) (text : String) : c.Talks [] (c.write text) :=
  { Talks.refl c with output := ⟨text, rfl⟩ }

def answer (c : Console) : List Text :=
  c.input.pieces.take 1

theorem Talks.readLine (c : Console) : c.Talks c.answer c.readLine.2 where
  output := (Talks.refl c).output
  errors := (Talks.refl c).errors
  verbose := rfl
  input := by
    rcases eq_or_ne c.input [] with none | some
    · rw [answer, Console.readLine, none]
      rfl
    · rw [answer, Text.pieces_eq some]
      rfl

end Console

namespace Machine

open Console

theorem log_talks (m : Machine) (level : LogLevel) (source message : String) :
    m.console.Talks [] (m.log level source message).console := by
  unfold log
  split
  · exact { Talks.refl m.console with errors := ⟨_, rfl, by simp [*]⟩ }
  · exact .refl _

end Machine

namespace Statement

open Console

/-- The prompt and the variables of the input statement that a line reaches, if it does. -/
def asked? (s : Execution) : Option (Text × List Text) :=
  match select s.context s.reading with
  | .ok (some .input) r =>
    match inputList s.context r with
    | .ok list _ => some list
    | .error _ _ => none
  | _ => none

def answers (s : Execution) : List Text :=
  if (asked? s).isSome then s.machine.console.answer else []

variable {s t : Execution} {u : Unit} {cause : Cause} {prompt : Text} {names : List Text}

theorem asked?_eq_some_iff : asked? s = some (prompt, names) ↔ AsksFor s prompt names := by
  constructor
  · intro h
    unfold asked? at h
    split at h
    · rename_i r hs
      split at h
      · rename_i list r' hl
        cases h
        exact ⟨r, r', hs, hl⟩
      · cases h
    · cases h
  · rintro ⟨r, r', hs, hl⟩
    simp only [asked?, hs, hl]

theorem answers_of_asksFor (h : AsksFor s prompt names) : answers s = s.machine.console.answer := by
  rw [answers, asked?_eq_some_iff.mpr h]
  rfl

theorem answers_of_not_asksFor (h : ∀ prompt names, ¬AsksFor s prompt names) :
    answers s = [] := by
  cases ha : asked? s with
  | none => rw [answers, ha]; rfl
  | some list => exact absurd (asked?_eq_some_iff.mp ha) (h _ _)

theorem assignAll_console (m : Machine) (values : List (Text × Number)) :
    (values.foldl (fun m v => m.assign v.1 v.2) m).console = m.console := by
  induction values generalizing m with
  | nil => rfl
  | cons value values ih => exact ih (m.assign value.1 value.2)

/-- Only an input statement reads. -/
theorem Effect.talks {m m' : Machine} {k : Option Keyword} (h : Effect m k m') :
    m.console.Talks (if k = some .input then m.console.answer else []) m'.console := by
  cases h with
  | input read =>
    rw [if_pos rfl, assignAll_console]
    exact (Talks.write _ _).trans (Talks.readLine _)
  | print text => exact .write _ _
  | _ => exact .refl _

theorem exists_asksFor {r : Reading} (h : execute s = .ok u t)
    (selected : select s.context s.reading = .ok (some .input) r) :
    ∃ prompt names, AsksFor s prompt names := by
  rw [execute_eq, Exec.bind_of_ok (Exec.evaluate_of_ok selected)] at h
  obtain ⟨⟨prompt, names⟩, s₁, listed, -⟩ := Exec.bind_eq_ok_iff.mp h
  obtain ⟨r', hl, -⟩ := Exec.evaluate_eq_ok_iff.mp listed
  exact ⟨prompt, names, r, r', selected, hl⟩

theorem execute_ok_talks (h : execute s = .ok u t) :
    s.machine.console.Talks (answers s) t.machine.console := by
  obtain ⟨k, r, selected, draws, he⟩ := execute_changes h
  have talks := he.talks
  by_cases input : k = some .input
  · subst input
    obtain ⟨prompt, names, asks⟩ := exists_asksFor h selected
    rw [answers_of_asksFor asks]
    exact talks
  · rw [if_neg input] at talks
    rw [answers_of_not_asksFor]
    · exact talks
    · rintro prompt names ⟨r', r'', selected', -⟩
      cases selected.symm.trans selected'
      exact input rfl

theorem execute_error_talks (h : execute s = .error cause t) :
    s.machine.console.Talks (answers s) t.machine.console := by
  obtain ⟨-, -, -, kept⟩ := execute_error_unchanged h
  rcases kept with ⟨same, noInput⟩ | ⟨prompt, names, line, rest, field, asks, read, -, -, -, after⟩
  · rw [answers_of_not_asksFor noInput, same]
    exact .refl _
  · have talks := (Talks.write s.machine.console (String.ofList prompt)).trans (.readLine _)
    rw [answers_of_asksFor asks, after]
    rw [Console.readLine, Console.write, read] at talks
    exact talks

end Statement

namespace Machine

open Console

variable {m m' : Machine} {failure : Option Failure}

def executeAnswers (m : Machine) (text : Text) : List Text :=
  Statement.answers (.start m.look text)

theorem execute_talks (m : Machine) (text : Text) :
    m.console.Talks (m.executeAnswers text) (m.execute text).1.console := by
  unfold execute
  split
  · rename_i he
    exact Statement.execute_ok_talks (s := .start m.look text) he
  · rename_i he
    exact Statement.execute_error_talks (s := .start m.look text) he

def turnAnswers (m : Machine) : List Text :=
  match m.next? with
  | none => []
  | some number =>
    match m.program.get? number with
    | none => []
    | some text => Statement.answers (.start (m.taken number) text)

def runAnswers : Nat → Machine → List Text
  | 0, _ => []
  | count + 1, m => m.turnAnswers ++
    match m.step with
    | .going m' => runAnswers count m'
    | .ended _ _ => []

theorem taken_talks (m : Machine) (number : Int) : m.console.Talks [] (m.taken number).console := by
  simp only [taken, logLine]
  split
  · exact log_talks { m.look with current := some number, position := m.position + 1 } _ _ _
  · exact .refl _

theorem abortRun_talks (m : Machine) (cause : Cause) (line : Int) (column : Nat) :
    m.console.Talks [] (m.abortRun cause line column).machine.console := by
  have logged (message? : Option String) (m : Machine) : m.console.Talks []
      (message?.elim m fun message => m.logRun s!"run aborted: {message}").console := by
    cases message? with
    | none => exact .refl _
    | some message => exact log_talks m _ _ _
  exact logged (Failure.message? ⟨cause, line, column⟩) { m with running := false }

theorem finishRun_talks (m : Machine) : m.console.Talks [] m.finishRun.console :=
  log_talks { m with running := false } _ _ _

theorem restarted_talks (m : Machine) : m.console.Talks [] m.restarted.console :=
  log_talks { m with address := m.program.lineNumbers, stack := [], position := 0 } _ _ _

theorem step_talks (m : Machine) : m.console.Talks m.turnAnswers m.step.machine.console := by
  cases hn : m.next? with
  | none =>
    rw [turnAnswers, hn, step_of_next?_none hn]
    exact m.finishRun_talks
  | some number =>
    obtain ⟨halted, next⟩ := next?_eq_some_iff.mp hn
    rw [step_of_taken halted next]
    cases stored : m.program.get? number with
    | none =>
      simp only [turnAnswers, hn, stored]
      rw [executeLine_of_none stored]
      exact abortRun_talks { m with current := some number } _ _ _
    | some text =>
      simp only [turnAnswers, hn, stored]
      rw [executeLine_of_some stored]
      have taken := m.taken_talks number
      cases he : Statement.execute (.start (m.taken number) text) with
      | ok u t => exact taken.trans (Statement.execute_ok_talks he)
      | error cause t =>
        exact taken.trans ((Statement.execute_error_talks he).trans_nil
          (t.machine.abortRun_talks _ _ _))

theorem turns_talks {count : Nat} (h : turns count m = some (m', failure)) :
    m.console.Talks (m.runAnswers count) m'.console := by
  induction count generalizing m with
  | zero => cases h
  | succ count ih =>
    have turned := m.step_talks
    rw [turns] at h
    rw [runAnswers]
    cases turn : m.step with
    | going next =>
      rw [turn] at h turned
      exact turned.trans (ih h)
    | ended final failure' =>
      rw [turn] at h turned
      cases h
      exact turned.trans (.refl _)

end Machine

end NumberedBasic
