import NumberedBasic.Expression

/-! # Progress along a line

A matcher moves its cursor over a piece of the line, never back. So the rest of a
line is always its end, and the column tells how much of it was passed.
-/

namespace NumberedBasic.Cursor

def Passes (c : Cursor) (piece : Text) (d : Cursor) : Prop :=
  c.rest = piece ++ d.rest ∧ d.column = c.column + piece.length

/-- The second cursor lies on the same line and not before the first. -/
def Reaches (c d : Cursor) : Prop :=
  ∃ piece, c.Passes piece d

namespace Passes

theorem refl (c : Cursor) : c.Passes [] c :=
  ⟨rfl, rfl⟩

theorem trans {c d e : Cursor} {p q : Text} (h : c.Passes p d) (h' : d.Passes q e) :
    c.Passes (p ++ q) e := by
  obtain ⟨hr, hc⟩ := h
  obtain ⟨hr', hc'⟩ := h'
  exact ⟨by rw [hr, hr', List.append_assoc], by simp [hc', hc, Nat.add_assoc]⟩

end Passes

namespace Reaches

theorem refl (c : Cursor) : c.Reaches c :=
  ⟨[], .refl c⟩

theorem trans {c d e : Cursor} (h : c.Reaches d) (h' : d.Reaches e) : c.Reaches e := by
  obtain ⟨p, hp⟩ := h
  obtain ⟨q, hq⟩ := h'
  exact ⟨p ++ q, hp.trans hq⟩

theorem length_le {c d : Cursor} (h : c.Reaches d) : d.rest.length ≤ c.rest.length := by
  obtain ⟨piece, hr, -⟩ := h
  simp [hr]

/-- What is left of a line tells where its cursor is. -/
theorem eq_of_rest {c d : Cursor} {piece rest : Text} (h : c.Reaches d)
    (hc : c.rest = piece ++ rest) (hd : d.rest = rest) : d = ⟨c.column + piece.length, rest⟩ := by
  obtain ⟨passed, hp, column⟩ := h
  rw [hd, hc] at hp
  obtain rfl := List.append_cancel_right hp
  rw [← column, ← hd]

theorem eq_of_rest_eq_nil {c d : Cursor} (h : c.Reaches d) (hr : c.rest = []) : d = c := by
  obtain ⟨piece, hp, hc⟩ := h
  obtain ⟨rfl, hd⟩ := List.nil_eq_append_iff.mp (hr.symm.trans hp)
  rw [Cursor.mk.injEq]
  exact ⟨hc, hd.trans hr.symm⟩

theorem rest_eq_drop {line : Text} {c : Cursor} (h : (start line).Reaches c) :
    c.column ≤ line.length ∧ c.rest = line.drop c.column := by
  obtain ⟨piece, hr, hc⟩ := h
  have hl : line = piece ++ c.rest := hr
  have hn : c.column = piece.length := by simpa [start] using hc
  simp [hl, hn]

end Reaches

theorem skipWhile_passes (c : Cursor) (p : Char → Bool) :
    c.Passes (c.rest.takeWhile p) (c.skipWhile p) :=
  ⟨List.takeWhile_append_dropWhile.symm, rfl⟩

theorem skipWhile_reaches (c : Cursor) (p : Char → Bool) : c.Reaches (c.skipWhile p) :=
  ⟨_, c.skipWhile_passes p⟩

theorem skipBlanks_reaches (c : Cursor) : c.Reaches c.skipBlanks :=
  c.skipWhile_reaches _

theorem advance_reaches {c : Cursor} {count : Nat} (h : count ≤ c.rest.length) :
    c.Reaches (c.advance count) :=
  ⟨c.rest.take count, (List.take_append_drop _ _).symm, by simp [advance, h]⟩

theorem finish_reaches (c : Cursor) : c.Reaches c.finish :=
  ⟨c.rest, by simp [finish], rfl⟩

theorem word_reaches (c : Cursor) : c.Reaches c.word.2 := by
  unfold word
  split
  · exact .refl c
  · exact c.skipWhile_reaches _

theorem identifier_reaches (c : Cursor) : c.Reaches c.identifier.2 := by
  unfold identifier
  dsimp only
  split
  · exact c.skipBlanks_reaches.trans (skipWhile_reaches _ _)
  · exact c.skipBlanks_reaches

theorem literal_reaches (c : Cursor) (expected : Text) :
    c.Reaches (c.literal expected).2 := by
  unfold literal
  dsimp only
  split
  · rename_i h
    have hl := (List.isPrefixOf_iff_prefix.mp h).length_le
    exact c.skipBlanks_reaches.trans (advance_reaches hl)
  · exact c.skipBlanks_reaches

theorem anyOf_reaches (c : Cursor) (literals : List Text) : c.Reaches (anyOf literals c).2 := by
  induction literals generalizing c with
  | nil => exact .refl c
  | cons expected others ih =>
    have h := c.literal_reaches expected
    unfold anyOf
    split
    · rename_i hm
      rw [hm] at h
      exact h
    · rename_i hm
      rw [hm] at h
      exact h.trans (ih _)

theorem keyword_reaches (c : Cursor) (expected : Text) :
    c.Reaches (c.keyword expected).2 := by
  have h := c.skipBlanks_reaches.trans c.skipBlanks.word_reaches
  unfold keyword
  split
  · rename_i hm
    rw [hm] at h
    split
    · exact h
    · exact .refl c
  · exact .refl c

theorem relation_reaches (c : Cursor) : c.Reaches c.relation.2 := by
  unfold relation
  dsimp only
  split
  · rename_i h
    have hp := List.find?_some h
    have hl := (List.isPrefixOf_iff_prefix.mp hp).length_le
    exact c.skipBlanks_reaches.trans (advance_reaches hl)
  · exact c.skipBlanks_reaches

theorem number_reaches (c : Cursor) : c.Reaches c.number.2 := by
  unfold number
  dsimp only
  split
  · exact c.skipBlanks_reaches
  · refine c.skipBlanks_reaches.trans ?_
    split
    · rename_i after ha
      refine advance_reaches ?_
      have hs := List.takeWhile_append_dropWhile (p := Text.isDigit) (l := c.skipBlanks.rest)
      have hl := (List.takeWhile_prefix Text.isDigit (l := after)).length_le
      have hlen := congrArg List.length hs
      rw [ha] at hlen
      simp only [List.length_append, List.length_cons] at hlen ⊢
      omega
    · exact skipWhile_reaches _ _

theorem lineNumber_reaches (c : Cursor) : c.Reaches c.lineNumber.2 := by
  have h := c.skipBlanks_reaches.trans (c.skipBlanks.skipWhile_reaches Text.isDigit)
  unfold lineNumber
  dsimp only
  split
  · exact c.skipBlanks_reaches
  · split <;> exact h

theorem string_reaches (c : Cursor) : c.Reaches c.string.2 := by
  unfold string
  dsimp only
  split
  · exact c.skipBlanks_reaches
  · rename_i first rest hr
    refine c.skipBlanks_reaches.trans ?_
    split
    · split
      · rename_i hl
        exact advance_reaches (by rw [hr, List.length_cons]; omega)
      · exact finish_reaches _
    · exact .refl _

theorem demand_reaches (c : Cursor) (expected : Text) : c.Reaches (c.demand expected).2 := by
  have h := c.literal_reaches expected
  unfold demand
  split
  · rename_i hm
    rw [hm] at h
    exact h
  · rename_i hm
    rw [hm] at h
    exact h

theorem demandIdentifier_reaches (c : Cursor) : c.Reaches c.demandIdentifier.2 := by
  have h := c.identifier_reaches
  unfold demandIdentifier
  split
  · rename_i hm
    rw [hm] at h
    exact h
  · rename_i hm
    rw [hm] at h
    exact h

theorem logical_reaches (c : Cursor) (operator : Operator) (expected : Text) :
    c.Reaches (c.logical operator expected).2 := by
  have h := c.keyword_reaches expected
  unfold logical
  split
  · rename_i hm
    rw [hm] at h
    exact h
  · rename_i hm
    rw [hm] at h
    exact h

theorem eitherSign_reaches (c : Cursor) (first second : Char × Operator) :
    c.Reaches (c.eitherSign first second).2 := by
  have h := c.literal_reaches [first.1]
  unfold eitherSign
  split
  · rename_i hm
    rw [hm] at h
    exact h
  · rename_i d hm
    rw [hm] at h
    have h' := h.trans (d.literal_reaches [second.1])
    split
    · rename_i hm'
      rw [hm'] at h'
      exact h'
    · rename_i hm'
      rw [hm'] at h'
      exact h'

section Shortening

variable {c : Cursor}

theorem literal_shortens {expected : Text} (hn : expected ≠ [])
    (h : (c.literal expected).1 = true) :
    (c.literal expected).2.rest.length < c.rest.length := by
  have hs := c.skipBlanks_reaches.length_le
  have hp := List.length_pos_iff.mpr hn
  unfold literal at h ⊢
  dsimp only at h ⊢
  split at h
  · rename_i he
    have hl := (List.isPrefixOf_iff_prefix.mp he).length_le
    simp only [he, if_true, advance, List.length_drop]
    omega
  · cases h

theorem word_shortens {word : Text} (h : c.word.1 = some word) :
    c.word.2.rest.length < c.rest.length := by
  have hs := congrArg List.length <|
    List.takeWhile_append_dropWhile (p := Text.isLetter) (l := c.rest)
  unfold Cursor.word at h ⊢
  cases hr : c.rest.takeWhile Text.isLetter with
  | nil => simp [hr] at h
  | cons first run =>
    simp only [hr, List.length_append, List.length_cons] at hs
    simp only [skipWhile]
    omega

theorem keyword_shortens {expected : Text} (h : (c.keyword expected).1 = true) :
    (c.keyword expected).2.rest.length < c.rest.length := by
  have hs := c.skipBlanks_reaches.length_le
  unfold keyword at h ⊢
  cases hm : c.skipBlanks.word with
  | mk word after =>
    cases word with
    | none => simp [hm] at h
    | some run =>
      have hw := word_shortens (congrArg Prod.fst hm)
      simp only [hm] at h hw ⊢
      split at h
      · rename_i he
        simp only [he, if_true]
        omega
      · cases h

theorem logical_shortens {o : Operator} {expected : Text}
    (h : (c.logical o expected).1.isSome) :
    (c.logical o expected).2.rest.length < c.rest.length := by
  unfold logical at h ⊢
  cases hm : c.keyword expected with
  | mk found after =>
    cases found with
    | false => simp [hm] at h
    | true =>
      have hk := keyword_shortens (congrArg Prod.fst hm)
      rwa [hm] at hk

theorem eitherSign_shortens {first second : Char × Operator}
    (h : (c.eitherSign first second).1.isSome) :
    (c.eitherSign first second).2.rest.length < c.rest.length := by
  unfold eitherSign at h ⊢
  cases hm : c.literal [first.1] with
  | mk found after =>
    cases found with
    | true =>
      have hl := literal_shortens (by simp) (congrArg Prod.fst hm)
      rwa [hm] at hl
    | false =>
      have hs := (c.literal_reaches [first.1]).length_le
      rw [hm] at hs
      cases hm' : after.literal [second.1] with
      | mk found after' =>
        cases found with
        | false => simp [hm, hm'] at h
        | true =>
          have hl := literal_shortens (by simp) (congrArg Prod.fst hm')
          rw [hm'] at hl
          simp only [hm']
          exact Nat.lt_of_lt_of_le hl hs

end Shortening

end NumberedBasic.Cursor
