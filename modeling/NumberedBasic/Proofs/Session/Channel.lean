import NumberedBasic.Proofs.Run.Channel
import NumberedBasic.Proofs.Session.Operation

/-! # The channels of loading

A line of a file that is executed reads its answers from the same input as any other. The
lines behind one that fails are not ingested and read nothing.
-/

namespace NumberedBasic

namespace Machine

open Console

def ingestAnswers (m : Machine) (text : Text) : List Text :=
  match (Cursor.start text.trimStart).lineNumber.1 with
  | .ok none => m.executeAnswers text.trimStart
  | _ => []

/-- The answers that ingested lines read, up to the first that fails. -/
def ingestAllAnswers : Machine → List Text → List Text
  | _, [] => []
  | m, line :: lines =>
    if line.isEmptyLine then ingestAllAnswers m lines
    else m.ingestAnswers line ++
      match m.ingest line with
      | (m, none) => ingestAllAnswers m lines
      | (_, some _) => []

theorem ingest_talks (m : Machine) (text : Text) :
    m.console.Talks (m.ingestAnswers text) (m.ingest text).1.console := by
  rw [ingest_eq, ingestAnswers]
  rcases (Cursor.start text.trimStart).lineNumber with ⟨cause | _ | number, c⟩
  · exact .refl _
  · exact m.execute_talks _
  · exact .refl _

theorem ingestAll_talks (m : Machine) (lines : List Text) :
    m.console.Talks (m.ingestAllAnswers lines) (m.ingestAll lines).1.console := by
  induction lines generalizing m with
  | nil => exact .refl _
  | cons line lines ih =>
    rw [ingestAll, ingestAllAnswers]
    split
    · exact ih m
    · have first := m.ingest_talks line
      rcases he : m.ingest line with ⟨m', _ | cause⟩
      all_goals
        rw [he] at first
      · exact first.trans (ih m')
      · exact first.trans (.refl _)

end Machine

namespace Session

open Console

variable {s s' : Session} {path : Path} {result : Except Trouble Nat}

def loadAnswers (s : Session) (path : Path) : List Text :=
  match s.directory.read path with
  | .ok content => s.machine.ingestAllAnswers content.lines
  | .error _ => []

theorem Loading.talks (h : s.Loading path s' result) :
    s.machine.console.Talks (s.loadAnswers path) s'.machine.console := by
  have ingested {lines : List Text} {m : Machine} {failure : Option Cause}
      (he : s.machine.ingestAll lines = (m, failure)) :
      s.machine.console.Talks (s.machine.ingestAllAnswers lines) m.console := by
    have all := s.machine.ingestAll_talks lines
    rwa [he] at all
  cases h with
  | unread read =>
    rw [loadAnswers, read]
    exact .refl _
  | failed read he =>
    rw [loadAnswers, read]
    exact ingested he
  | undecodable read he =>
    rw [loadAnswers, read]
    exact ingested he
  | loaded read he =>
    rw [loadAnswers, read]
    exact (ingested he).trans_nil (Machine.log_talks _ _ _ _)

theorem saveTo_talks (s : Session) (path : Path) :
    s.machine.console.Talks [] (s.saveTo path).1.machine.console := by
  unfold saveTo
  dsimp only
  split
  · exact .refl _
  · split
    · exact Machine.log_talks _ _ _ _
    · exact .refl _

end Session

end NumberedBasic
