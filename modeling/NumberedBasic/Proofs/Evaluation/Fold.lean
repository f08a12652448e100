import Mathlib.Data.List.TakeWhile
import NumberedBasic.Expression
import NumberedBasic.Proofs.Text.Fold

/-! # Matchers on folded lines

Every matcher finds on a folded line what it finds on the line itself, and stops at the same
column. Only the texts that it gives back or complains about are folded.
-/

namespace NumberedBasic

open Text

namespace Folding

variable (F : Folding) {α : Type}

def cursor (c : Cursor) : Cursor :=
  ⟨c.column, F.text c.rest⟩

section Matchers

variable (c : Cursor)

theorem skipWhile_cursor {p : Char → Bool} (invariant : ∀ c, p (F.char c) = p c) :
    (F.cursor c).skipWhile p = F.cursor (c.skipWhile p) := by
  simp only [Cursor.skipWhile, cursor, F.takeWhile_text invariant, F.dropWhile_text invariant,
    length_text]

theorem skipBlanks_cursor : (F.cursor c).skipBlanks = F.cursor c.skipBlanks :=
  F.skipWhile_cursor c F.isBlank_char

theorem advance_cursor (count : Nat) :
    (F.cursor c).advance count = F.cursor (c.advance count) := by
  simp only [Cursor.advance, cursor, drop_text]

theorem finish_cursor : (F.cursor c).finish = F.cursor c.finish := by
  simp only [Cursor.finish, cursor, length_text, text_nil]

/-- The matcher finds the same on a folded line, apart from what is folded in it. -/
def Finds (fold : α → α) (matcher : Cursor → α × Cursor) : Prop :=
  ∀ c, matcher (F.cursor c) = (fold (matcher c).1, F.cursor (matcher c).2)

theorem finds_word : F.Finds id Cursor.word := by
  intro c
  have run : (F.cursor c).rest.takeWhile isLetter = F.text (c.rest.takeWhile isLetter) :=
    F.takeWhile_text F.isLetter_char c.rest
  unfold Cursor.word
  rw [run, F.skipWhile_cursor c F.isLetter_char]
  cases h : c.rest.takeWhile isLetter with
  | nil => rfl
  | cons first others => exact Prod.ext (congrArg some (F.lower_text (first :: others))) rfl

theorem finds_identifier : F.Finds id Cursor.identifier := by
  intro c
  have head : (F.cursor c.skipBlanks).rest.head?.any isLetter =
      c.skipBlanks.rest.head?.any isLetter := by
    simp only [cursor, text, List.head?_map, Option.any_map]
    exact congrArg (c.skipBlanks.rest.head?.any ·) (funext F.isLetter_char)
  have run : (F.cursor c.skipBlanks).rest.takeWhile isNameChar =
      F.text (c.skipBlanks.rest.takeWhile isNameChar) :=
    F.takeWhile_text F.isNameChar_char _
  unfold Cursor.identifier
  simp only [skipBlanks_cursor, head, run, lower_text, F.skipWhile_cursor _ F.isNameChar_char]
  split <;> rfl

theorem takeWhile_isDigit (t : Text) : (F.text t).takeWhile isDigit = t.takeWhile isDigit :=
  (F.takeWhile_text F.isDigit_char t).trans
    (F.text_of_digits fun _ hc => List.mem_takeWhile_imp hc)

theorem finds_number : F.Finds id Cursor.number := by
  intro c
  have whole : (F.cursor c.skipBlanks).rest.takeWhile isDigit =
      c.skipBlanks.rest.takeWhile isDigit := F.takeWhile_isDigit _
  have behind : (F.cursor c.skipBlanks).rest.dropWhile isDigit =
      F.text (c.skipBlanks.rest.dropWhile isDigit) := F.dropWhile_text F.isDigit_char _
  have skip : (F.cursor c.skipBlanks).skipDigits = F.cursor c.skipBlanks.skipDigits :=
    F.skipWhile_cursor _ F.isDigit_char
  unfold Cursor.number
  simp only [skipBlanks_cursor, whole, behind, skip]
  cases c.skipBlanks.rest.takeWhile isDigit with
  | nil => rfl
  | cons first others =>
    cases c.skipBlanks.rest.dropWhile isDigit with
    | nil => rfl
    | cons point after =>
      by_cases hp : point = '.'
      · subst hp
        have dot : F.char '.' = '.' := F.char_of_not_isLetter (by decide +kernel)
        simp only [text_cons, dot, takeWhile_isDigit, advance_cursor, id_eq]
      · have other : F.char point ≠ '.' :=
          fun same => hp ((F.char_eq_iff (by decide +kernel) point).mp same)
        simp only [text_cons]
        split
        · rename_i same
          exact absurd (List.head_eq_of_cons_eq same) other
        · split
          · rename_i same
            exact absurd (List.head_eq_of_cons_eq same) hp
          · rfl

theorem finds_lineNumber : F.Finds id Cursor.lineNumber := by
  intro c
  have digits : (F.cursor c.skipBlanks).rest.takeWhile isDigit =
      c.skipBlanks.rest.takeWhile isDigit := F.takeWhile_isDigit _
  have skip : (F.cursor c.skipBlanks).skipDigits = F.cursor c.skipBlanks.skipDigits :=
    F.skipWhile_cursor _ F.isDigit_char
  unfold Cursor.lineNumber
  simp only [skipBlanks_cursor, digits, skip]
  cases c.skipBlanks.rest.takeWhile isDigit with
  | nil => rfl
  | cons first others =>
    dsimp only
    split <;> rfl

theorem finds_literal {expected : Text} (h : Text.Caseless expected) :
    F.Finds id (Cursor.literal expected) := by
  intro c
  have same : expected.isPrefixOf (F.cursor c.skipBlanks).rest =
      expected.isPrefixOf c.skipBlanks.rest := F.isPrefixOf_text h _
  unfold Cursor.literal
  simp only [skipBlanks_cursor, same, advance_cursor]
  split <;> rfl

theorem finds_anyOf {literals : List Text} (h : ∀ expected ∈ literals, Text.Caseless expected) :
    F.Finds id (Cursor.anyOf literals) := by
  induction literals with
  | nil => exact fun _ => rfl
  | cons expected literals ih =>
    obtain ⟨he, hl⟩ := List.forall_mem_cons.mp h
    intro c
    unfold Cursor.anyOf
    rw [F.finds_literal he c]
    obtain ⟨found, d⟩ := c.literal expected
    cases found with
    | true => rfl
    | false => exact ih hl d

theorem finds_keyword (expected : Text) : F.Finds id (Cursor.keyword expected) := by
  intro c
  unfold Cursor.keyword
  rw [skipBlanks_cursor, F.finds_word c.skipBlanks]
  obtain ⟨found, d⟩ := c.skipBlanks.word
  cases found with
  | none => rfl
  | some run =>
    simp only [id_eq]
    split <;> rfl

theorem finds_logical (o : Operator) (expected : Text) :
    F.Finds id (Cursor.logical o expected) := by
  intro c
  unfold Cursor.logical
  rw [F.finds_keyword expected c]
  obtain ⟨found, d⟩ := c.keyword expected
  cases found <;> rfl

theorem finds_eitherSign {first second : Char × Operator} (h : Text.Caseless [first.1])
    (h' : Text.Caseless [second.1]) : F.Finds id (Cursor.eitherSign first second) := by
  intro c
  unfold Cursor.eitherSign
  rw [F.finds_literal h c]
  obtain ⟨found, d⟩ := c.literal [first.1]
  cases found with
  | true => rfl
  | false =>
    simp only [id_eq]
    rw [F.finds_literal h' d]
    obtain ⟨found, e⟩ := d.literal [second.1]
    cases found <;> rfl

theorem finds_relation : F.Finds id Cursor.relation := by
  intro c
  have signs (r : Relation) : Text.Caseless r.sign := by
    cases r <;> decide +kernel
  have same : Relation.all.find? (·.sign.isPrefixOf (F.cursor c.skipBlanks).rest) =
      Relation.all.find? (·.sign.isPrefixOf c.skipBlanks.rest) :=
    congrArg Relation.all.find? (funext fun r => F.isPrefixOf_text (signs r) _)
  unfold Cursor.relation
  simp only [skipBlanks_cursor, same, advance_cursor]
  split <;> rfl

theorem finds_atEnd : F.Finds id Cursor.atEnd := by
  intro c
  unfold Cursor.atEnd
  rw [skipBlanks_cursor]
  refine Prod.ext ?_ rfl
  simp only [cursor, text, List.isEmpty_map, id_eq]

def outcome (fold : α → α) : Except Cause α → Except Cause α
  | .ok a => .ok (fold a)
  | .error k => .error (F.cause k)

theorem finds_demand {expected : Text} (h : Text.Caseless expected) :
    F.Finds (F.outcome id) (Cursor.demand expected) := by
  intro c
  unfold Cursor.demand
  rw [F.finds_literal h c]
  obtain ⟨found, d⟩ := c.literal expected
  cases found <;> rfl

theorem finds_demandIdentifier : F.Finds (F.outcome id) Cursor.demandIdentifier := by
  intro c
  unfold Cursor.demandIdentifier
  rw [F.finds_identifier c]
  obtain ⟨found, d⟩ := c.identifier
  cases found <;> rfl

theorem finds_string : F.Finds (F.outcome (Option.map F.text)) Cursor.string := by
  intro c
  have quoted (first : Char) : F.char first = Cursor.quote ↔ first = Cursor.quote :=
    F.char_eq_iff (by decide +kernel) first
  have inside (first : Char) : (F.char first != Cursor.quote) = (first != Cursor.quote) := by
    simp only [bne, beq_eq_decide, quoted]
  unfold Cursor.string
  simp only [skipBlanks_cursor]
  cases h : c.skipBlanks.rest with
  | nil => simp only [cursor, h, text_nil, outcome, Option.map_none]
  | cons first rest =>
    have ahead : (F.cursor c.skipBlanks).rest = F.char first :: F.text rest := by
      simp only [cursor, h, text_cons]
    have content : (F.text rest).takeWhile (· != Cursor.quote) =
        F.text (rest.takeWhile (· != Cursor.quote)) := F.takeWhile_text inside rest
    simp only [ahead, quoted, content, length_text, advance_cursor, finish_cursor]
    split
    · split <;> rfl
    · rfl

end Matchers

end Folding

end NumberedBasic
