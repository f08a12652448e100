import NumberedBasic.Proofs.Text.Line
import NumberedBasic.Session

/-! # Operations on a session

A session is asked for one operation after the other, and every session that comes of
a fresh one in this way is reachable. Operations that fail count as well, since a
failure is an answer like any other.
-/

namespace NumberedBasic

/-- What a session can be asked for. Runs are given a number of turns. -/
inductive Operation where
  | ingest (text : Text)
  | execute (text : Text)
  | assign (name : Text) (value : Number)
  | clear
  | new
  | delete (number : Int)
  | run (turns : Nat)
  | resume (turns : Nat)
  | load (name : Text)
  | save (name : Text)

/-- What a session answers. -/
inductive Answer where
  | done (failure : Option Cause)
  | ended (failure : Option Failure)
  | loaded (result : Except Trouble Nat)
  | saved (result : Except Trouble Text)

/-- The first character tells whether there is a number to scan, so that the scanner's answer
decides alone. -/
theorem Machine.ingest_eq (m : Machine) (text : Text) : m.ingest text =
    match (Cursor.start text.trimStart).lineNumber with
    | (.ok (some number), c) => (m.storeLine number c.rest, none)
    | (.ok none, _) => m.execute text.trimStart
    | (.error cause, _) => (m, some cause) := by
  have skip : (Cursor.start text.trimStart).skipBlanks.rest = text.trimStart :=
    Text.trimStart_trimStart text
  unfold ingest
  dsimp only
  split
  · rename_i numbered
    obtain ⟨first, head, digit⟩ := Option.any_eq_true .. |>.mp numbered
    have found := Cursor.lineNumber_ne_none (skip.symm ▸ head) digit
    unfold ingestNumbered
    split <;> simp_all
  · rename_i unnumbered
    have none := Cursor.lineNumber_none (c := .start text.trimStart) (by
      rw [skip]
      simpa [Option.any_eq_false] using unnumbered)
    simp only [none]

namespace Session

/-- The session after an operation and its answer; nothing, if a run does not end in the
turns that it is given. -/
def answer (s : Session) : Operation → Option (Session × Answer)
  | .ingest text =>
    let (m, failure) := (s.allow 3).machine.ingest text
    some ({ s with machine := m }, .done failure)
  | .execute text =>
    let (m, failure) := (s.allow 4).machine.execute text
    some ({ s with machine := m }, .done failure)
  | .assign name value => some (s.update (·.assign name value), .done none)
  | .clear => some (s.update Machine.clear, .done none)
  | .new => some (s.update Machine.new, .done none)
  | .delete number =>
    match s.machine.deleteLine number with
    | .ok m => some ({ s with machine := m }, .done none)
    | .error cause => some (s, .done (some cause))
  | .run turns =>
    ((s.allow 3).machine.runFor turns).map fun (m, failure) =>
      ({ s with machine := m }, .ended failure)
  | .resume turns =>
    ((s.allow 4).machine.continueFor turns).map fun (m, failure) =>
      ({ s with machine := m }, .ended failure)
  | .load name =>
    let (s, result) := (s.allow 2).load name
    some (s, .loaded result)
  | .save name =>
    let (s, result) := s.save name
    some (s, .saved result)

/-- How loading the file at a path ends: it cannot be read, a line fails, the lines before
what cannot be decoded are ingested, or all lines are. -/
inductive Loading (s : Session) (path : Path) : Session → Except Trouble Nat → Prop where
  | unread {error : FileError} (read : s.directory.read path = .error error) :
      Loading s path s (.error (.file error path))
  | failed {content : Content} {m : Machine} {cause : Cause}
      (read : s.directory.read path = .ok content)
      (ingested : s.machine.ingestAll content.lines = (m, some cause)) :
      Loading s path { s with machine := m } (.error (.cause cause))
  | undecodable {before : Text} {m : Machine} (read : s.directory.read path = .ok (.binary before))
      (ingested : s.machine.ingestAll before.wholeLines = (m, none)) :
      Loading s path { s with machine := m } (.error .undecodable)
  | loaded {text : Text} {m : Machine} (read : s.directory.read path = .ok (.text text))
      (ingested : s.machine.ingestAll text.lines = (m, none)) :
      Loading s path { s with machine := m.logLoaded text.lines.length path.text }
        (.ok text.lines.length)

theorem loading (s : Session) (path : Path) :
    ∃ s' result, s.loadFrom path = (s', result) ∧ s.Loading path s' result := by
  rcases read : s.directory.read path with error | text | before
  · exact ⟨_, _, by simp only [loadFrom, read], .unread read⟩
  · rcases ingested : s.machine.ingestAll text.lines with ⟨m, _ | cause⟩
    all_goals simp only [loadFrom, read, Content.lines, ingested]
    · exact ⟨_, _, rfl, .loaded read ingested⟩
    · exact ⟨_, _, rfl, .failed read ingested⟩
  · rcases ingested : s.machine.ingestAll before.wholeLines with ⟨m, _ | cause⟩
    all_goals simp only [loadFrom, read, Content.lines, ingested]
    · exact ⟨_, _, rfl, .undecodable read ingested⟩
    · exact ⟨_, _, rfl, .failed read ingested⟩

/-- Some operations have led from a fresh machine to the session. Between them time may
pass, the files and the channels may change, and the session may be used from elsewhere,
where more or fewer calls lead to it. -/
inductive Reachable : Session → Prop where
  | fresh (seed : Int) (clock : Clock) (console : Console) (directory : Directory) (room : Nat) :
      Reachable ⟨.fresh seed clock console, directory, room⟩
  | answered {s s' : Session} {operation : Operation} {result : Answer} (earlier : Reachable s)
      (answer : s.answer operation = some (s', result)) : Reachable s'
  | meanwhile {s : Session} (earlier : Reachable s) (clock : Clock) (console : Console)
      (directory : Directory) (room : Nat) :
      Reachable ⟨{ s.machine with clock, console }, directory, room⟩

end Session

end NumberedBasic
