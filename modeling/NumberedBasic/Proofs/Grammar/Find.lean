import Mathlib.Data.List.TakeWhile
import NumberedBasic.Proofs.Grammar.Level

/-! # What matchers find

A matcher that succeeds has passed blanks and one word of its kind. One that fails has
passed nothing but blanks, and what it looks for is not ahead.
-/

namespace NumberedBasic

open Text

/-- The text begins with the token: with a keyword as a whole run of letters, or with a sign. -/
def Token.Leads (t : Token) (text : Text) : Prop :=
  (∃ word ∈ t.keyword?, lower (text.takeWhile isLetter) = word) ∨ ∃ sign ∈ t.sign?, sign <+: text

namespace Cursor

def ahead (c : Cursor) : Text :=
  c.rest.dropWhile isBlank

/-- The second cursor lies behind a word, with perhaps some blanks before it. -/
def Finds (c : Cursor) (word : Text) (d : Cursor) : Prop :=
  ∃ blanks, (∀ first ∈ blanks, isBlank first = true) ∧ c.Passes (blanks ++ word) d

abbrev Skips (c d : Cursor) : Prop :=
  c.Finds [] d

variable {c d e : Cursor} {word expected : Text}

theorem skipBlanks_skips (c : Cursor) : c.Skips c.skipBlanks := by
  refine ⟨c.rest.takeWhile isBlank, fun first hf => List.mem_takeWhile_imp hf, ?_⟩
  rw [List.append_nil]
  exact c.skipWhile_passes isBlank

theorem Skips.refl (c : Cursor) : c.Skips c :=
  ⟨[], nofun, .refl c⟩

theorem Skips.finds (h : c.Skips d) (h' : d.Finds word e) : c.Finds word e := by
  obtain ⟨blanks, hb, hp⟩ := h
  obtain ⟨blanks', hb', hp'⟩ := h'
  refine ⟨blanks ++ blanks', ?_, ?_⟩
  · rintro first hf
    rcases List.mem_append.mp hf with hf | hf
    · exact hb first hf
    · exact hb' first hf
  · rw [List.append_assoc]
    simpa using hp.trans hp'

theorem Skips.ahead_eq (h : c.Skips d) : d.ahead = c.ahead := by
  obtain ⟨blanks, hb, hr, -⟩ := h
  rw [ahead, ahead, hr, List.append_nil, List.dropWhile_append_of_pos hb]

theorem finds_of_passes (h : c.skipBlanks.Passes word d) : c.Finds word d :=
  c.skipBlanks_skips.finds ⟨[], nofun, h⟩

theorem passes_advance {rest : Text} (h : c.rest = word ++ rest) :
    c.Passes word (c.advance word.length) :=
  ⟨by rw [advance_rest h, h], rfl⟩

section Signs

theorem literal_finds (h : c.literal expected = (true, d)) : c.Finds expected d := by
  unfold literal at h
  dsimp only at h
  split at h
  · rename_i hp
    cases h
    obtain ⟨rest, hr⟩ := List.isPrefixOf_iff_prefix.mp hp
    exact finds_of_passes (passes_advance hr.symm)
  · cases h

theorem literal_skips (h : c.literal expected = (false, d)) :
    c.Skips d ∧ ¬ expected <+: c.ahead := by
  unfold literal at h
  dsimp only at h
  split at h
  · cases h
  · rename_i hp
    cases h
    exact ⟨c.skipBlanks_skips, fun hl => hp (List.isPrefixOf_iff_prefix.mpr hl)⟩

theorem relation_finds {r : Relation} (h : c.relation = (some r, d)) : c.Finds r.sign d := by
  unfold relation at h
  dsimp only at h
  split at h
  · rename_i hf
    cases h
    have hp := List.find?_some hf
    obtain ⟨rest, hr⟩ := List.isPrefixOf_iff_prefix.mp hp
    exact finds_of_passes (passes_advance hr.symm)
  · cases h

theorem relation_skips (h : c.relation = (none, d)) :
    c.Skips d ∧ ∀ r : Relation, ¬ r.sign <+: c.ahead := by
  unfold relation at h
  dsimp only at h
  split at h
  · cases h
  · rename_i hf
    cases h
    refine ⟨c.skipBlanks_skips, fun r hp => ?_⟩
    have hr : r ∈ Relation.all := by cases r <;> simp [Relation.all]
    exact List.find?_eq_none.mp hf r hr (List.isPrefixOf_iff_prefix.mpr hp)

end Signs

section Words

theorem keyword_finds (h : c.keyword expected = (true, d)) :
    ∃ text, (∀ first ∈ text, isLetter first = true) ∧ lower text = lower expected ∧
      c.Finds text d := by
  refine ⟨c.ahead.takeWhile isLetter, fun first hf => List.mem_takeWhile_imp hf, ?_⟩
  unfold keyword at h
  by_cases hr : c.skipBlanks.rest.takeWhile isLetter = []
  · simp [word_none hr] at h
  · rw [word_of_run rfl hr] at h
    dsimp only at h
    split at h
    · rename_i hl
      cases h
      exact ⟨hl, finds_of_passes (c.skipBlanks.skipWhile_passes isLetter)⟩
    · cases h

theorem keyword_skips (hn : lower expected ≠ []) (h : c.keyword expected = (false, d)) :
    c.Skips d ∧ lower (c.ahead.takeWhile isLetter) ≠ lower expected := by
  unfold keyword at h
  by_cases hr : c.skipBlanks.rest.takeWhile isLetter = []
  · have hl : c.ahead.takeWhile isLetter = [] := hr
    rw [word_none hr] at h
    cases h
    rw [hl]
    exact ⟨.refl c, hn.symm⟩
  · rw [word_of_run rfl hr] at h
    dsimp only at h
    split at h
    · cases h
    · rename_i hl
      cases h
      exact ⟨.refl c, hl⟩

theorem identifier_finds {key : Text} (h : c.identifier = (some key, d)) :
    ∃ text, IsName text ∧ lower text = key ∧ c.Finds text d := by
  unfold identifier at h
  dsimp only at h
  split at h
  · rename_i hl
    cases h
    refine ⟨c.ahead.takeWhile isNameChar, ⟨?_, fun first hf => List.mem_takeWhile_imp hf⟩, rfl,
      finds_of_passes (c.skipBlanks.skipWhile_passes isNameChar)⟩
    have hl : c.ahead.head?.any isLetter = true := hl
    cases hc : c.ahead with
    | nil => simp [hc] at hl
    | cons first rest =>
      have hf : isLetter first = true := by simpa [hc] using hl
      exact ⟨first, by simp [isNameChar_of_isLetter hf], hf⟩
  · cases h

theorem identifier_skips (h : c.identifier = (none, d)) : c.Skips d := by
  unfold identifier at h
  dsimp only at h
  split at h
  · cases h
  · cases h
    exact c.skipBlanks_skips

theorem number_finds {token : Text} (h : c.number = (some token, d)) :
    ∃ l : Literal, l.text = token ∧ c.Finds token d := by
  unfold number at h
  dsimp only at h
  have digits (text : Text) : ∀ first ∈ text.takeWhile isDigit, isDigit first = true :=
    fun first hf => List.mem_takeWhile_imp hf
  have whole : c.skipBlanks.rest =
      c.skipBlanks.rest.takeWhile isDigit ++ c.skipBlanks.rest.dropWhile isDigit :=
    List.takeWhile_append_dropWhile.symm
  split at h
  · cases h
  · rename_i hn
    split at h
    · rename_i after ha
      cases h
      refine ⟨⟨_, some (after.takeWhile isDigit), hn, digits _, ?_⟩, rfl, finds_of_passes ?_⟩
      · rintro _ ⟨⟩
        exact digits after
      · rw [ha, ← List.takeWhile_append_dropWhile (p := isDigit) (l := after)] at whole
        rw [← List.cons_append, ← List.append_assoc] at whole
        exact passes_advance whole
    · cases h
      exact ⟨⟨_, none, hn, digits _, nofun⟩, rfl,
        finds_of_passes (c.skipBlanks.skipWhile_passes isDigit)⟩

theorem number_skips (h : c.number = (none, d)) : c.Skips d := by
  unfold number at h
  dsimp only at h
  split at h
  · cases h
    exact c.skipBlanks_skips
  · split at h <;> cases h

end Words

section Operators

variable {o o' : Operator}

theorem logical_finds (hk : (Token.operator o).keyword? = some expected)
    (h : c.logical o expected = (some o', d)) :
    o' = o ∧ ∃ word, (Token.operator o).Spells word ∧ c.Finds word d := by
  unfold logical at h
  split at h
  · rename_i hm
    cases h
    obtain ⟨text, letters, hl, hf⟩ := keyword_finds hm
    exact ⟨rfl, text, .keyword hk letters (hl.trans (Token.lower_of_keyword hk)), hf⟩
  · cases h

theorem logical_skips (hk : (Token.operator o).keyword? = some expected)
    (h : c.logical o expected = (none, d)) :
    c.Skips d ∧ lower (c.ahead.takeWhile isLetter) ≠ expected := by
  have hl := Token.lower_of_keyword hk
  unfold logical at h
  split at h
  · cases h
  · rename_i hm
    cases h
    have hs := keyword_skips (hl.symm ▸ (Token.kind_of_keyword hk).2) hm
    rwa [hl] at hs

variable {p : Operator} {a b : Char}

theorem eitherSign_finds (ha : (Token.operator o).sign? = some [a])
    (hb : (Token.operator o').sign? = some [b])
    (h : c.eitherSign (a, o) (b, o') = (some p, d)) :
    (p = o ∨ p = o') ∧ ∃ word, (Token.operator p).Spells word ∧ c.Finds word d := by
  unfold eitherSign at h
  split at h
  · rename_i hm
    cases h
    exact ⟨.inl rfl, [a], .sign ha, literal_finds hm⟩
  · rename_i hm
    obtain ⟨skips, -⟩ := literal_skips hm
    split at h
    · rename_i hm'
      cases h
      exact ⟨.inr rfl, [b], .sign hb, skips.finds (literal_finds hm')⟩
    · cases h

theorem eitherSign_skips (h : c.eitherSign (a, o) (b, o') = (none, d)) :
    c.Skips d ∧ ¬ [a] <+: c.ahead ∧ ¬ [b] <+: c.ahead := by
  unfold eitherSign at h
  split at h
  · cases h
  · rename_i hm
    obtain ⟨skips, absent⟩ := literal_skips hm
    split at h
    · cases h
    · rename_i hm'
      cases h
      obtain ⟨skips', absent'⟩ := literal_skips hm'
      rw [skips.ahead_eq] at absent'
      exact ⟨skips.finds skips', absent, absent'⟩

end Operators

end Cursor

namespace Rank

variable {r : Rank} {c d : Cursor}

def Over (r : Rank) (text : Text) : Prop :=
  ∀ o : Operator, o.rank = r → ¬ (Token.operator o).Leads text

theorem operator_finds {o : Operator} (h : r.operator c = (some o, d)) :
    o.rank = r ∧ ∃ word, (Token.operator o).Spells word ∧ c.Finds word d := by
  cases r with
  | disjunction | conjunction =>
    obtain ⟨rfl, found⟩ := Cursor.logical_finds rfl h
    exact ⟨rfl, found⟩
  | arithmetic | term =>
    obtain ⟨rfl | rfl, found⟩ := Cursor.eitherSign_finds rfl rfl h
    · exact ⟨rfl, found⟩
    · exact ⟨rfl, found⟩

theorem operator_skips (h : r.operator c = (none, d)) : c.Skips d ∧ r.Over c.ahead := by
  cases r with
  | disjunction | conjunction =>
    obtain ⟨skips, absent⟩ := Cursor.logical_skips rfl h
    refine ⟨skips, ?_⟩
    rintro (_ | _ | _ | _ | _ | _) ⟨⟩ (⟨_, ⟨⟩, leads⟩ | ⟨_, ⟨⟩, _⟩)
    exact absent leads
  | arithmetic | term =>
    obtain ⟨skips, absent, absent'⟩ := Cursor.eitherSign_skips h
    refine ⟨skips, ?_⟩
    rintro (_ | _ | _ | _ | _ | _) ⟨⟩ (⟨_, ⟨⟩, _⟩ | ⟨_, ⟨⟩, leads⟩)
    · exact absent leads
    · exact absent' leads

end Rank

end NumberedBasic
