import NumberedBasic.Proofs.Grammar.Alone
import NumberedBasic.Proofs.Grammar.Find

/-! # The longest pieces of a kind

A run of a class of characters is the longest piece of its kind that a text begins with. So are the
digits with a point and more digits behind them, and the first relation found. What the matchers of
a cursor read is told by such pieces.
-/

namespace NumberedBasic

open Text

structure Text.Longest (kind : Text → Prop) (piece text : Text) : Prop where
  begins : piece <+: text
  isKind : kind piece
  longest : ∀ other, other <+: text → kind other → other.length ≤ piece.length

def Text.All (p : Char → Bool) (text : Text) : Prop :=
  ∀ c ∈ text, p c = true

def IsWord (text : Text) : Prop :=
  text ≠ [] ∧ All isLetter text

def IsNumber (text : Text) : Prop :=
  text ≠ [] ∧ All isDigit text

def IsLiteral (text : Text) : Prop :=
  ∃ l : Literal, l.text = text

def IsSign (text : Text) : Prop :=
  ∃ r : Relation, r.sign = text

namespace Text

variable {text piece : Text} {p : Char → Bool} {kind : Text → Prop}

theorem all_takeWhile (p : Char → Bool) (text : Text) : All p (text.takeWhile p) :=
  fun _ hc => List.mem_takeWhile_imp hc

/-- A run of a class is the longest text of a kind that admits no other characters. -/
theorem longest_run (inside : ∀ t, kind t → All p t) (isKind : kind (text.takeWhile p)) :
    Longest kind (text.takeWhile p) text where
  begins := List.takeWhile_prefix p
  isKind := isKind
  longest other begins otherKind := by
    obtain ⟨rest, rfl⟩ := begins
    rw [List.takeWhile_append_of_pos (inside other otherKind)]
    simp

theorem longest_all (p : Char → Bool) (text : Text) : Longest (All p) (text.takeWhile p) text :=
  longest_run (fun _ all => all) (all_takeWhile p text)

/-- Where a class has no run, nothing begins that has characters of the class only. -/
theorem eq_nil_of_no_run (none : text.takeWhile p = []) (begins : piece <+: text)
    (all : All p piece) : piece = [] := by
  obtain ⟨rest, rfl⟩ := begins
  rw [List.takeWhile_append_of_pos all] at none
  exact (List.append_eq_nil_iff.mp none).1

theorem point_behind {whole digits : Text} (inside : All isDigit whole)
    (begins : whole ++ '.' :: digits <+: text) : text.takeWhile isDigit = whole ∧
      ∃ after, text.dropWhile isDigit = '.' :: after ∧ digits <+: after := by
  obtain ⟨rest, rfl⟩ := begins
  have point : ∀ c ∈ ('.' :: (digits ++ rest)).head?, isDigit c = false := by
    rintro _ ⟨⟩
    decide +kernel
  rw [List.append_assoc, List.cons_append]
  exact ⟨takeWhile_run inside point, digits ++ rest, dropWhile_run inside point,
    List.prefix_append _ _⟩

theorem longest_whole (nonempty : text.takeWhile isDigit ≠ [])
    (ends : ∀ after, text.dropWhile isDigit ≠ '.' :: after) :
    Longest IsLiteral (text.takeWhile isDigit) text where
  begins := List.takeWhile_prefix _
  isKind := ⟨⟨_, none, nonempty, all_takeWhile _ _, nofun⟩, rfl⟩
  longest := by
    rintro _ begins ⟨⟨whole, fraction, _, inside, _⟩, rfl⟩
    cases fraction with
    | none => exact (longest_all isDigit text).longest whole begins inside
    | some digits =>
      obtain ⟨-, after, point, -⟩ := point_behind inside begins
      exact absurd point (ends after)

theorem longest_fraction {after : Text} (nonempty : text.takeWhile isDigit ≠ [])
    (point : text.dropWhile isDigit = '.' :: after) :
    Longest IsLiteral (text.takeWhile isDigit ++ '.' :: after.takeWhile isDigit) text where
  begins := by
    obtain ⟨rest, same⟩ := after.takeWhile_prefix isDigit
    refine ⟨rest, ?_⟩
    rw [List.append_assoc, List.cons_append, same, ← point, List.takeWhile_append_dropWhile]
  isKind := by
    refine ⟨⟨_, some (after.takeWhile isDigit), nonempty, all_takeWhile _ _, ?_⟩, rfl⟩
    rintro _ ⟨⟩
    exact all_takeWhile _ _
  longest := by
    rintro _ begins ⟨⟨whole, fraction, _, inside, inside'⟩, rfl⟩
    cases fraction with
    | none =>
      have shorter := (longest_all isDigit text).longest whole begins inside
      simp only [Literal.text, List.length_append]
      omega
    | some digits =>
      obtain ⟨same, after', point', begins'⟩ := point_behind inside begins
      obtain rfl : after = after' := by simpa [point] using point'
      have shorter := (longest_all isDigit after).longest digits begins' (inside' digits rfl)
      simp only [Literal.text, same, List.length_append, List.length_cons]
      omega

theorem Longest.unique {piece' : Text} (h : Longest kind piece text)
    (h' : Longest kind piece' text) : piece = piece' := by
  have le := h'.longest piece h.begins h.isKind
  have ge := h.longest piece' h'.begins h'.isKind
  exact (List.prefix_of_prefix_length_le h.begins h'.begins le).eq_of_length (by omega)

end Text

/-- Each sign comes before those that it begins with, so the first one found is the longest. -/
theorem Relation.longest_found {text : Text} {r : Relation}
    (found : all.find? (·.sign.isPrefixOf text) = some r) : Longest IsSign r.sign text where
  begins := by
    have begins := List.find?_some found
    exact List.isPrefixOf_iff_prefix.mp begins
  isKind := ⟨r, rfl⟩
  longest := by
    rintro _ ⟨rest, rfl⟩ ⟨r', rfl⟩
    have short : ∀ r : Relation, 1 ≤ r.sign.length := by
      intro r
      cases r <;> decide
    cases r' with
    | atMost | different | atLeast =>
      obtain rfl : _ = r := by simpa [all, sign, List.isPrefixOf_cons_cons] using found
      exact Nat.le_refl _
    | less | equal | greater => exact short r

namespace Cursor

/-- The cursor is at a place of the line, and the end of the line is ahead of it. -/
def IsOn (line : Text) (c : Cursor) : Prop :=
  c.column ≤ line.length ∧ c.rest = line.drop c.column

theorem Reaches.isOn {line : Text} {c : Cursor} (h : (start line).Reaches c) : c.IsOn line :=
  h.rest_eq_drop

theorem Reaches.column_le {c d : Cursor} (h : c.Reaches d) : c.column ≤ d.column := by
  obtain ⟨piece, -, column⟩ := h
  omega

theorem Reaches.column_lt {c d : Cursor} (h : c.Reaches d)
    (shorter : d.rest.length < c.rest.length) : c.column < d.column := by
  obtain ⟨piece, rest, column⟩ := h
  rw [rest, List.length_append] at shorter
  omega

theorem IsOn.of_reaches {line : Text} {c d : Cursor} (h : c.IsOn line) (reaches : c.Reaches d) :
    d.IsOn line := by
  have begins : (start line).Reaches c := by
    obtain ⟨le, rest⟩ := h
    refine ⟨line.take c.column, ?_, ?_⟩
    · rw [rest]
      exact (List.take_append_drop _ _).symm
    · simp [start, le]
  exact (begins.trans reaches).isOn

variable (c : Cursor)

theorem identifier_cases :
    (Longest IsName (c.skipBlanks.rest.takeWhile isNameChar) c.skipBlanks.rest ∧
      c.identifier = (some (lower (c.skipBlanks.rest.takeWhile isNameChar)),
        c.skipBlanks.skipWhile isNameChar)) ∨
    (∀ piece, piece <+: c.skipBlanks.rest → ¬IsName piece) ∧
      c.identifier = (none, c.skipBlanks) := by
  unfold identifier
  by_cases letter : c.skipBlanks.rest.head?.any isLetter = true
  · left
    obtain ⟨first, head, isLetter_first⟩ := (Option.any_eq_true _ _).mp letter
    refine ⟨longest_run (fun _ name => name.2) ⟨⟨first, ?_, isLetter_first⟩, all_takeWhile _ _⟩, ?_⟩
    · rw [List.head?_takeWhile, head]
      simp [isNameChar_of_isLetter isLetter_first]
    · simp only [letter, if_true]
  · right
    constructor
    · rintro piece ⟨rest, same⟩ name
      obtain ⟨first, others, rfl, isLetter_first⟩ := name.begins
      have isLetter_first : isLetter first = true := isLetter_first
      exact letter (by simp [← same, isLetter_first])
    · exact if_neg letter

theorem number_cases :
    (∃ token, Longest IsLiteral token c.skipBlanks.rest ∧
      c.number.1 = some token ∧ c.skipBlanks.Passes token c.number.2) ∨
    (∀ piece, piece <+: c.skipBlanks.rest → ¬IsLiteral piece) ∧
      c.number = (none, c.skipBlanks) := by
  by_cases none : c.skipBlanks.rest.takeWhile isDigit = []
  · right
    constructor
    · rintro piece ⟨rest, same⟩ ⟨l, rfl⟩
      obtain ⟨first, others, text, digit⟩ := l.begins
      have digit : isDigit first = true := digit
      rw [← same, text] at none
      simp [digit] at none
    · unfold number
      dsimp only
      rw [none]
  · left
    unfold number
    dsimp only
    split
    · contradiction
    · split
      · rename_i after point
        have longest := longest_fraction none point
        obtain ⟨rest, same⟩ := longest.begins
        exact ⟨_, longest, rfl, passes_advance same.symm⟩
      · rename_i ends
        exact ⟨_, longest_whole none ends, rfl, c.skipBlanks.skipWhile_passes isDigit⟩

theorem literal_of_begins {expected : Text} (begins : expected <+: c.skipBlanks.rest) :
    c.literal expected = (true, c.skipBlanks.advance expected.length) := by
  simp only [literal, List.isPrefixOf_iff_prefix.mpr begins, if_true]

theorem literal_of_absent {expected : Text} (absent : ¬expected <+: c.skipBlanks.rest) :
    c.literal expected = (false, c.skipBlanks) := by
  simp only [literal, List.isPrefixOf_iff_prefix, absent, if_false]

theorem literal_not_found {c : Cursor} {expected : Text} (h : (c.literal expected).1 = false) :
    (c.literal expected).2 = c.skipBlanks := by
  by_cases begins : expected <+: c.skipBlanks.rest
  · simp [c.literal_of_begins begins] at h
  · rw [c.literal_of_absent begins]

/-- Behind a quote comes a string up to the next one, or none comes and the line is left. -/
theorem string_cases {rest : Text} (opens : c.skipBlanks.rest = quote :: rest) :
    (∃ content behind, quote ∉ content ∧ rest = content ++ quote :: behind ∧
      c.string = (.ok (some content), c.skipBlanks.advance (content.length + 2))) ∨
    quote ∉ rest ∧ c.string = (.error .unclosedString, c.skipBlanks.finish) := by
  have plain : quote ∉ rest.takeWhile (· != quote) := by
    intro mem
    simpa using List.mem_takeWhile_imp mem
  have whole := List.takeWhile_append_dropWhile (p := (· != quote)) (l := rest)
  have last := List.head?_dropWhile_not (· != quote) rest
  cases behind : rest.dropWhile (· != quote) with
  | nil =>
    have closes : rest.takeWhile (· != quote) = rest := by
      simpa [behind] using whole
    exact .inr ⟨closes ▸ plain, by simp [Cursor.string, opens, closes]⟩
  | cons first behind' =>
    obtain rfl : first = quote := by simpa [behind] using last
    rw [behind] at whole
    refine .inl ⟨_, behind', plain, whole.symm, ?_⟩
    have shorter : (rest.takeWhile (· != quote)).length < rest.length := by
      conv_rhs => rw [← whole]
      simp
    simp [Cursor.string, opens, shorter]

theorem anyOf_cons (expected : Text) (others : List Text) :
    anyOf (expected :: others) c =
      match (expected :: others).find? (·.isPrefixOf c.skipBlanks.rest) with
      | some found => (some found, c.skipBlanks.advance found.length)
      | none => (none, c.skipBlanks) := by
  induction others generalizing expected c with
  | nil =>
    by_cases begins : expected <+: c.skipBlanks.rest
    · simp [anyOf, c.literal_of_begins begins, List.isPrefixOf_iff_prefix.mpr begins]
    · have absent : expected.isPrefixOf c.skipBlanks.rest = false := by
        simpa [← List.isPrefixOf_iff_prefix] using begins
      simp [anyOf, c.literal_of_absent begins, absent]
  | cons other others ih =>
    by_cases begins : expected <+: c.skipBlanks.rest
    · simp [anyOf, c.literal_of_begins begins, List.isPrefixOf_iff_prefix.mpr begins]
    · have absent : expected.isPrefixOf c.skipBlanks.rest = false := by
        simpa [← List.isPrefixOf_iff_prefix] using begins
      rw [anyOf, c.literal_of_absent begins, List.find?_cons_of_neg (by simp [absent])]
      dsimp only
      rw [ih, skipBlanks_skipBlanks]

end Cursor

end NumberedBasic
