import Mathlib.Data.List.Infix
import NumberedBasic.Proofs.Evaluation.Clock

/-! # Evaluations with other random numbers

A function is called by its name alone. So a line that does not contain the name of the one that
draws random numbers is evaluated alike with all of them, even at another time, as long as it does
not contain the name of the timer either.
-/

namespace NumberedBasic

namespace Text

/-- The text contains the letters of the word, each in upper or lower case. -/
def Contains (text word : Text) : Prop :=
  ∃ part, part <:+: text ∧ lower part = word

instance (text word : Text) : Decidable (text.Contains word) :=
  decidable_of_iff (∃ part ∈ text.tails.flatMap List.inits, lower part = word) <| by
    simp [Contains, List.infix_iff_prefix_suffix, and_comm]

example : Text.Contains ['x', 'R', 'n', 'D', '1'] ['r', 'n', 'd'] := by decide

def Lacks (functions : List Builtin) (text : Text) : Prop :=
  ∀ b ∈ functions, ¬text.Contains b.name

instance (functions : List Builtin) (text : Text) : Decidable (text.Lacks functions) :=
  inferInstanceAs (Decidable (∀ b ∈ functions, ¬text.Contains b.name))

variable {text part word : Text} {functions : List Builtin}

theorem Contains.of_isInfix (h : part.Contains word) (within : part <:+: text) :
    text.Contains word := by
  obtain ⟨piece, inside, spelled⟩ := h
  exact ⟨piece, inside.trans within, spelled⟩

theorem Lacks.of_isInfix (h : text.Lacks functions) (within : part <:+: text) :
    part.Lacks functions :=
  fun b hb contained => h b hb (contained.of_isInfix within)

theorem trimStart_suffix (text : Text) : text.trimStart <:+ text :=
  List.dropWhile_suffix _

theorem trim_isInfix (text : Text) : text.trim <:+: text := by
  have ending : text.trim <+: text.trimStart := by
    rw [← List.reverse_suffix, trim, dropEndWhile, List.reverse_reverse]
    exact List.dropWhile_suffix _
  exact ending.isInfix.trans text.trimStart_suffix.isInfix

end Text

namespace Cursor

theorem Reaches.rest_suffix {c d : Cursor} (h : c.Reaches d) : d.rest <:+ c.rest := by
  obtain ⟨piece, rest, -⟩ := h
  exact ⟨piece, rest.symm⟩

theorem contains_of_identifier {c : Cursor} {name : Text} (h : c.identifier.1 = some name) :
    c.rest.Contains name := by
  unfold identifier at h
  dsimp only at h
  split at h
  · obtain rfl := Option.some.inj h
    have within := c.skipBlanks_reaches.rest_suffix
    exact ⟨_, (List.takeWhile_prefix _).isInfix.trans within.isInfix, rfl⟩
  · cases h

end Cursor

theorem Builtin.call_of_ne_rnd {b : Builtin} (h : b ≠ rnd) (clock : Nat) (arguments : List Number)
    (g : Generator) : b.call clock arguments g = (b.value clock arguments, g) := by
  unfold call
  split
  · exact absurd rfl h
  · rfl

namespace Outlook

/-- The random numbers differ. The time may differ too, if the timer is one of the other functions
that are hidden. -/
def unseeded (others : List Builtin) : Outlook where
  alike clock clock' _ _ := clock = clock' ∨ .timer ∈ others
  hidden b := b ∈ .rnd :: others
  roomier := False
  same _ _ _ _ h _ := h
  call b shown clock clock' g g' alike arguments := by
    have drawless : b ≠ .rnd := fun h => shown (h ▸ List.mem_cons_self)
    have value : b.value clock arguments = b.value clock' arguments := by
      rcases alike with rfl | timer
      · rfl
      · have timeless : b ≠ .timer := fun h => shown (List.mem_cons_of_mem _ (h ▸ timer))
        have same := Builtin.call_of_ne_timer timeless clock clock' arguments g
        rw [Builtin.call_of_ne_rnd drawless, Builtin.call_of_ne_rnd drawless] at same
        exact (congrArg Prod.fst same).symm
    rw [Builtin.call_of_ne_rnd drawless, Builtin.call_of_ne_rnd drawless]
    exact ⟨value, alike⟩

/-- No call of a function is ahead of which the line does not contain the name. -/
theorem clear_of_lacks {text : Text} {others : List Builtin} (h : text.Lacks (.rnd :: others)) :
    (unseeded others).Clear (.start text) := by
  intro d reached b hidden named
  have within : d.rest <:+ text := reached.rest_suffix
  exact h b hidden ((Cursor.contains_of_identifier named).of_isInfix within.isInfix)

end Outlook

end NumberedBasic
