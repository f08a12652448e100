import NumberedBasic.Proofs.Cursor.Piece

/-! # Calls of matchers

Behind any blanks a matcher takes the longest piece of the line that is of its kind. One that
finds nothing of its kind moves over blanks at most, and what a failure has passed is known too.
So the cursor stays on the line and never moves back, whatever is looked for and in which order.
-/

namespace NumberedBasic

open Text

namespace Cursor

inductive Call where
  | word
  | identifier
  | number
  | lineNumber
  | string
  | relation
  | literal (expected : Text)
  | anyOf (literals : List Text)
  | keyword (expected : Text)
  | demand (expected : Text)
  | demandIdentifier
  | skipBlanks
  | skipDigits
  | atEnd
  | ahead

inductive Answer where
  | token (text : Text)
  | lineNumber (n : Nat)
  | missed
  | failed (cause : Cause)
  | skipped
  | ending (reached : Bool)
  | ahead (rest : Text)

namespace Answer

def ofToken : Option Text → Answer
  | some text => token text
  | none => missed

def ofFound (text : Text) (found : Bool) : Answer :=
  if found then token text else missed

def ofResult {α : Type} (answer : α → Answer) : Except Cause α → Answer
  | .ok found => answer found
  | .error cause => failed cause

def ofLineNumber : Option Nat → Answer
  | some n => lineNumber n
  | none => missed

end Answer

namespace Call

def run : Call → Cursor → Answer × Cursor
  | word, c => c.word.map .ofToken id
  | identifier, c => c.identifier.map .ofToken id
  | number, c => c.number.map .ofToken id
  | lineNumber, c => c.lineNumber.map (.ofResult .ofLineNumber) id
  | string, c => c.string.map (.ofResult .ofToken) id
  | relation, c => c.relation.map (fun r => .ofToken (r.map Relation.sign)) id
  | literal expected, c => (c.literal expected).map (.ofFound expected) id
  | anyOf literals, c => (Cursor.anyOf literals c).map .ofToken id
  | keyword expected, c => (c.keyword expected).map (.ofFound (lower expected)) id
  | demand expected, c => (c.demand expected).map (.ofResult fun _ => .token expected) id
  | demandIdentifier, c => c.demandIdentifier.map (.ofResult .token) id
  | skipBlanks, c => (.skipped, c.skipBlanks)
  | skipDigits, c => (.skipped, c.skipDigits)
  | atEnd, c => c.atEnd.map .ending id
  | ahead, c => (.ahead c.rest, c)

def origin : Call → Cursor → Cursor
  | word, c | anyOf [], c | skipBlanks, c | skipDigits, c | atEnd, c | ahead, c => c
  | _, c => c.skipBlanks

/-- The call takes the piece off the beginning of the text and gives the answer. -/
inductive Takes : Call → Text → Text → Answer → Prop where
  | word {text piece : Text} (run : Longest IsWord piece text) :
      Takes word text piece (.token (lower piece))
  | identifier {text piece : Text} (run : Longest IsName piece text) :
      Takes identifier text piece (.token (lower piece))
  | number {text piece : Text} (run : Longest IsLiteral piece text) :
      Takes number text piece (.token piece)
  | lineNumber {text piece : Text} (run : Longest IsNumber piece text)
      (few : piece.length ≤ lineNumberDigits) :
      Takes lineNumber text piece (.lineNumber (digitsValue piece))
  | string {content behind : Text} (plain : quote ∉ content) :
      Takes string (quote :: (content ++ quote :: behind)) (quote :: (content ++ [quote]))
        (.token content)
  | relation {text piece : Text} (run : Longest IsSign piece text) :
      Takes relation text piece (.token piece)
  | literal {expected text : Text} (begins : expected <+: text) :
      Takes (literal expected) text expected (.token expected)
  | anyOf {literals before after : List Text} {expected text : Text}
      (order : literals = before ++ expected :: after) (begins : expected <+: text)
      (others : ∀ other ∈ before, ¬other <+: text) :
      Takes (anyOf literals) text expected (.token expected)
  | keyword {expected text piece : Text} (run : Longest IsWord piece text)
      (same : lower piece = lower expected) :
      Takes (keyword expected) text piece (.token (lower piece))
  | demand {expected text : Text} (begins : expected <+: text) :
      Takes (demand expected) text expected (.token expected)
  | demandIdentifier {text piece : Text} (run : Longest IsName piece text) :
      Takes demandIdentifier text piece (.token (lower piece))
  | skipBlanks {text piece : Text} (run : Longest (All isBlank) piece text) :
      Takes skipBlanks text piece .skipped
  | skipDigits {text piece : Text} (run : Longest (All isDigit) piece text) :
      Takes skipDigits text piece .skipped
  | atEnd {text piece : Text} (run : Longest (All isBlank) piece text) :
      Takes atEnd text piece (.ending (decide (piece = text)))
  | ahead {text : Text} : Takes ahead text [] (.ahead text)

/-- The call fails at the text when it has passed the piece. -/
inductive Fails : Call → Text → Text → Cause → Prop where
  | string {content : Text} (unclosed : quote ∉ content) :
      Fails string (quote :: content) (quote :: content) .unclosedString
  | lineNumber {text piece : Text} (run : Longest IsNumber piece text)
      (many : lineNumberDigits < piece.length) : Fails lineNumber text piece .lineNumberTooLarge
  | demand {expected text : Text} (absent : ¬expected <+: text) :
      Fails (demand expected) text [] (.expected expected text)
  | demandIdentifier {text : Text} (absent : ∀ piece, piece <+: text → ¬IsName piece) :
      Fails demandIdentifier text [] (.variableExpected text)

/-- A call that finds nothing has skipped its blanks, except for a keyword. -/
def missed : Call → Cursor → Cursor
  | keyword _, c => c
  | call, c => call.origin c

inductive Answers (call : Call) (c : Cursor) : Answer → Cursor → Prop where
  | found {piece : Text} {answer : Answer} {d : Cursor}
      (takes : call.Takes (call.origin c).rest piece answer)
      (passes : (call.origin c).Passes piece d) : Answers call c answer d
  | missed (absent : ∀ piece answer, ¬call.Takes (call.origin c).rest piece answer)
      (sound : ∀ piece cause, ¬call.Fails (call.origin c).rest piece cause) :
      Answers call c .missed (call.missed c)
  | failed {piece : Text} {cause : Cause} {d : Cursor}
      (fails : call.Fails (call.origin c).rest piece cause)
      (passes : (call.origin c).Passes piece d) : Answers call c (.failed cause) d

variable {call : Call} {c : Cursor} {answer : Answer} {d : Cursor}

def Answered (call : Call) (c : Cursor) : Prop :=
  call.Answers c (call.run c).1 (call.run c).2

theorem Answered.of_run (answers : call.Answers c answer d) (run : call.run c = (answer, d)) :
    call.Answered c := by
  unfold Answered
  rwa [run]

variable (c)

theorem answered_word : word.Answered c := by
  by_cases none : c.rest.takeWhile isLetter = []
  · refine .of_run (.missed ?_ (by rintro _ _ ⟨⟩)) (congrArg (Prod.map _ id) (word_none none))
    rintro piece answer ⟨run⟩
    exact run.isKind.1 (eq_nil_of_no_run none run.begins run.isKind.2)
  · exact .of_run (.found (.word (longest_run (fun _ word => word.2) ⟨none, all_takeWhile _ _⟩))
      (c.skipWhile_passes isLetter)) (congrArg (Prod.map _ id) (word_of_run rfl none))

theorem answered_keyword (expected : Text) : (keyword expected).Answered c := by
  by_cases none : c.skipBlanks.rest.takeWhile isLetter = []
  · have missed : c.keyword expected = (false, c) := by
      unfold Cursor.keyword
      rw [word_none none]
    refine .of_run (.missed ?_ (by rintro _ _ ⟨⟩)) (congrArg (Prod.map _ id) missed)
    intro piece answer takes
    cases takes with
    | keyword run => exact run.isKind.1 (eq_nil_of_no_run none run.begins run.isKind.2)
  · have longest : Longest IsWord (c.skipBlanks.rest.takeWhile isLetter) c.skipBlanks.rest :=
      longest_run (fun _ word => word.2) ⟨none, all_takeWhile _ _⟩
    have read : c.keyword expected =
        if lower (c.skipBlanks.rest.takeWhile isLetter) = lower expected then
          (true, c.skipBlanks.skipWhile isLetter) else (false, c) := by
      unfold Cursor.keyword
      rw [word_of_run rfl none]
    split at read
    · rename_i same
      refine .of_run (.found (.keyword longest same) (c.skipBlanks.skipWhile_passes isLetter)) ?_
      rw [same]
      exact congrArg (Prod.map _ id) read
    · rename_i other
      refine .of_run (.missed ?_ (by rintro _ _ ⟨⟩)) (congrArg (Prod.map _ id) read)
      intro piece answer takes
      cases takes with
      | keyword run same => exact other (run.unique longest ▸ same)

theorem answered_identifier : identifier.Answered c := by
  rcases c.identifier_cases with ⟨longest, read⟩ | ⟨absent, read⟩
  · exact .of_run (.found (.identifier longest) (c.skipBlanks.skipWhile_passes isNameChar))
      (congrArg (Prod.map _ id) read)
  · refine .of_run (.missed ?_ (by rintro _ _ ⟨⟩)) (congrArg (Prod.map _ id) read)
    intro piece answer takes
    cases takes with
    | identifier run => exact absent piece run.begins run.isKind

theorem answered_demandIdentifier : demandIdentifier.Answered c := by
  rcases c.identifier_cases with ⟨longest, read⟩ | ⟨absent, read⟩
  · refine .of_run (.found (.demandIdentifier longest)
      (c.skipBlanks.skipWhile_passes isNameChar)) ?_
    simp only [run, Cursor.demandIdentifier, read]
    rfl
  · refine .of_run (.failed (.demandIdentifier absent) (.refl _)) ?_
    simp only [run, Cursor.demandIdentifier, read]
    rfl

theorem answered_number : number.Answered c := by
  rcases c.number_cases with ⟨token, longest, value, passes⟩ | ⟨absent, read⟩
  · refine .of_run (.found (.number longest) passes) ?_
    simp only [run, Prod.map, value]
    rfl
  · refine .of_run (.missed ?_ (by rintro _ _ ⟨⟩)) (congrArg (Prod.map _ id) read)
    intro piece answer takes
    cases takes with
    | number run => exact absent piece run.begins run.isKind

theorem answered_lineNumber : lineNumber.Answered c := by
  by_cases none : c.skipBlanks.rest.takeWhile isDigit = []
  · have read : c.lineNumber = (.ok Option.none, c.skipBlanks) := by
      unfold Cursor.lineNumber
      dsimp only
      rw [none]
    refine .of_run (.missed ?_ ?_) (congrArg (Prod.map _ id) read)
    · intro piece answer takes
      cases takes with
      | lineNumber run => exact run.isKind.1 (eq_nil_of_no_run none run.begins run.isKind.2)
    · intro piece cause fails
      cases fails with
      | lineNumber run => exact run.isKind.1 (eq_nil_of_no_run none run.begins run.isKind.2)
  · have longest : Longest IsNumber (c.skipBlanks.rest.takeWhile isDigit) c.skipBlanks.rest :=
      longest_run (fun _ digits => digits.2) ⟨none, all_takeWhile _ _⟩
    have passes := c.skipBlanks.skipWhile_passes isDigit
    have read : c.lineNumber =
        if lineNumberDigits < (c.skipBlanks.rest.takeWhile isDigit).length then
          (.error .lineNumberTooLarge, c.skipBlanks.skipDigits)
        else (.ok (some (digitsValue (c.skipBlanks.rest.takeWhile isDigit))),
          c.skipBlanks.skipDigits) := by
      unfold Cursor.lineNumber
      dsimp only
      split
      · contradiction
      · rfl
    split at read
    · rename_i many
      exact .of_run (.failed (.lineNumber longest many) passes) (congrArg (Prod.map _ id) read)
    · rename_i few
      exact .of_run (.found (.lineNumber longest (Nat.le_of_not_lt few)) passes)
        (congrArg (Prod.map _ id) read)

theorem answered_string : string.Answered c := by
  by_cases opens : ∃ rest, c.skipBlanks.rest = quote :: rest
  · obtain ⟨rest, opens⟩ := opens
    rcases c.string_cases opens with ⟨content, behind, plain, rfl, read⟩ | ⟨unclosed, read⟩
    · have takes : string.Takes c.skipBlanks.rest (quote :: (content ++ [quote]))
          (.token content) := opens ▸ .string plain
      have passes : c.skipBlanks.Passes (quote :: (content ++ [quote]))
          (c.skipBlanks.advance (content.length + 2)) := by
        have length : content.length + 2 = (quote :: (content ++ [quote])).length := by simp
        rw [length]
        exact passes_advance (by rw [opens]; simp : _ = _ ++ behind)
      exact .of_run (.found takes passes) (congrArg (Prod.map _ id) read)
    · have fails : string.Fails c.skipBlanks.rest c.skipBlanks.rest .unclosedString :=
        opens ▸ .string unclosed
      have passes : c.skipBlanks.Passes c.skipBlanks.rest c.skipBlanks.finish :=
        ⟨(List.append_nil _).symm, rfl⟩
      exact .of_run (.failed fails passes) (congrArg (Prod.map _ id) read)
  · have read : c.string = (.ok none, c.skipBlanks) := by
      unfold Cursor.string
      cases ahead : c.skipBlanks.rest with
      | nil => simp [ahead]
      | cons first rest =>
        have other : first ≠ quote := by
          rintro rfl
          exact opens ⟨rest, ahead⟩
        simp [ahead, other]
    refine .of_run (.missed ?_ ?_) (congrArg (Prod.map _ id) read)
    · intro piece answer takes
      generalize ahead : (string.origin c).rest = text at takes
      cases takes with
      | string => exact opens ⟨_, ahead⟩
    · intro piece cause fails
      generalize ahead : (string.origin c).rest = text at fails
      cases fails with
      | string => exact opens ⟨_, ahead⟩

theorem answered_relation : relation.Answered c := by
  cases found : Relation.all.find? (·.sign.isPrefixOf c.skipBlanks.rest) with
  | some r =>
    have read : c.relation = (some r, c.skipBlanks.advance r.sign.length) := by
      simp only [Cursor.relation, found]
    have longest := Relation.longest_found found
    obtain ⟨rest, same⟩ := longest.begins
    refine .of_run (.found (.relation longest) (passes_advance same.symm)) ?_
    simp only [run, read]
    rfl
  | none =>
    have read : c.relation = (none, c.skipBlanks) := by
      simp only [Cursor.relation, found]
    refine .of_run (.missed ?_ (by rintro _ _ ⟨⟩)) (by simp only [run, read]; rfl)
    intro piece answer takes
    cases takes with
    | relation run =>
      obtain ⟨r, rfl⟩ := run.isKind
      exact (relation_skips read).2 r run.begins

theorem answered_literal (expected : Text) : (literal expected).Answered c := by
  by_cases begins : expected <+: c.skipBlanks.rest
  · obtain ⟨rest, same⟩ := id begins
    exact .of_run (.found (.literal begins) (passes_advance same.symm))
      (congrArg (Prod.map _ id) (c.literal_of_begins begins))
  · refine .of_run (.missed ?_ (by rintro _ _ ⟨⟩))
      (congrArg (Prod.map _ id) (c.literal_of_absent begins))
    intro piece answer takes
    cases takes with
    | literal begins' => exact begins begins'

theorem answered_anyOf (literals : List Text) : (anyOf literals).Answered c := by
  cases literals with
  | nil =>
    refine .of_run (.missed ?_ (by rintro _ _ ⟨⟩)) rfl
    intro piece answer takes
    cases takes with
    | anyOf order => simp at order
  | cons expected others =>
    have read := c.anyOf_cons expected others
    cases found : (expected :: others).find? (·.isPrefixOf c.skipBlanks.rest) with
    | some literal =>
      rw [found] at read
      obtain ⟨begins, before, after, order, absent⟩ := List.find?_eq_some_iff_append.mp found
      have begins : literal <+: c.skipBlanks.rest := List.isPrefixOf_iff_prefix.mp begins
      obtain ⟨rest, same⟩ := id begins
      refine .of_run (.found (.anyOf order begins fun other mem => ?_) (passes_advance same.symm))
        (congrArg (Prod.map _ id) read)
      have missing : (!other.isPrefixOf c.skipBlanks.rest) = true := absent other mem
      show ¬other <+: c.skipBlanks.rest
      simpa [← List.isPrefixOf_iff_prefix] using missing
    | none =>
      rw [found] at read
      refine .of_run (.missed ?_ (by rintro _ _ ⟨⟩)) (congrArg (Prod.map _ id) read)
      intro piece answer takes
      cases takes with
      | anyOf order begins =>
        refine List.find?_eq_none.mp found piece ?_ (List.isPrefixOf_iff_prefix.mpr begins)
        simp [order]

theorem answered_demand (expected : Text) : (demand expected).Answered c := by
  by_cases begins : expected <+: c.skipBlanks.rest
  · obtain ⟨rest, same⟩ := id begins
    refine .of_run (.found (.demand begins) (passes_advance same.symm)) ?_
    simp only [run, Cursor.demand, c.literal_of_begins begins]
    rfl
  · refine .of_run (.failed (.demand begins) (.refl _)) ?_
    simp only [run, Cursor.demand, c.literal_of_absent begins]
    rfl

theorem answered_skipBlanks : skipBlanks.Answered c :=
  .of_run (.found (.skipBlanks (longest_all isBlank c.rest)) (c.skipWhile_passes isBlank)) rfl

theorem answered_skipDigits : skipDigits.Answered c :=
  .of_run (.found (.skipDigits (longest_all isDigit c.rest)) (c.skipWhile_passes isDigit)) rfl

theorem answered_atEnd : atEnd.Answered c := by
  refine .of_run (.found (.atEnd (longest_all isBlank c.rest)) (c.skipWhile_passes isBlank)) ?_
  have blank : (c.rest.dropWhile isBlank).isEmpty =
      decide (c.rest.takeWhile isBlank = c.rest) := by
    rw [Bool.eq_iff_iff, List.isEmpty_iff, decide_eq_true_iff, List.dropWhile_eq_nil_iff,
      List.takeWhile_eq_self_iff]
  exact congrArg (fun ending => (Answer.ending ending, c.skipBlanks)) blank

theorem answered_ahead : ahead.Answered c :=
  .of_run (.found .ahead (.refl c)) rfl

theorem run_answered (call : Call) : call.Answered c := by
  cases call with
  | word => exact answered_word c
  | identifier => exact answered_identifier c
  | number => exact answered_number c
  | lineNumber => exact answered_lineNumber c
  | string => exact answered_string c
  | relation => exact answered_relation c
  | literal expected => exact answered_literal c expected
  | anyOf literals => exact answered_anyOf c literals
  | keyword expected => exact answered_keyword c expected
  | demand expected => exact answered_demand c expected
  | demandIdentifier => exact answered_demandIdentifier c
  | skipBlanks => exact answered_skipBlanks c
  | skipDigits => exact answered_skipDigits c
  | atEnd => exact answered_atEnd c
  | ahead => exact answered_ahead c

theorem origin_skips (call : Call) : c.Skips (call.origin c) := by
  unfold origin
  split
  all_goals first | exact .refl c | exact c.skipBlanks_skips

theorem missed_skips (call : Call) : c.Skips (call.missed c) := by
  unfold missed
  split
  · exact .refl c
  · exact origin_skips c call

variable {c}

theorem Answers.reaches (h : call.Answers c answer d) : c.Reaches d := by
  cases h with
  | found takes passes =>
    obtain ⟨blanks, -, skipped⟩ := origin_skips c call
    exact ⟨_, skipped.trans passes⟩
  | missed =>
    obtain ⟨blanks, -, skipped⟩ := missed_skips c call
    exact ⟨_, skipped⟩
  | failed fails passes =>
    obtain ⟨blanks, -, skipped⟩ := origin_skips c call
    exact ⟨_, skipped.trans passes⟩

theorem Takes.answer_ne {text piece : Text} (h : call.Takes text piece answer) :
    answer ≠ .missed := by
  cases h <;> nofun

theorem Answers.skips_of_missed (h : call.Answers c answer d) (missed : answer = .missed) :
    c.Skips d := by
  cases h with
  | found takes => exact absurd missed takes.answer_ne
  | missed => exact missed_skips c call
  | failed => cases missed

def behind (calls : List Call) (c : Cursor) : Cursor :=
  calls.foldl (fun c call => (call.run c).2) c

theorem reaches_behind (calls : List Call) (c : Cursor) : c.Reaches (behind calls c) := by
  induction calls generalizing c with
  | nil => exact .refl c
  | cons call calls ih => exact (run_answered c call).reaches.trans (ih (call.run c).2)

/-- After any calls the cursor is on the line, and the next call answers by what is behind the
blanks that it skips. It moves over that piece only, and over blanks only if it finds nothing. -/
theorem follows_line (line : Text) (calls : List Call) (call : Call) :
    let c := behind calls (start line)
    let answer := (call.run c).1
    let d := (call.run c).2
    c.IsOn line ∧ d.IsOn line ∧ c.column ≤ d.column ∧ c.Skips (call.origin c) ∧
      (answer = .missed → c.Skips d) ∧ call.Answers c answer d := by
  intro c answer d
  have before : (start line).Reaches c := reaches_behind calls (start line)
  have answers : call.Answers c answer d := run_answered c call
  exact ⟨before.isOn, (before.trans answers.reaches).isOn, answers.reaches.column_le,
    origin_skips c call, answers.skips_of_missed, answers⟩

end Call

end Cursor

end NumberedBasic
