import NumberedBasic.Proofs.Evaluation.Outlook

/-! # Evaluations without a clock

The clock is read where a call of the timer is, or a new seed that is left out. Where neither
can be found ahead, nothing shows the time.
-/

namespace NumberedBasic

namespace Cursor

/-- A name of the timer is here, or a new seed is left out. -/
def readsClock (c : Cursor) : Bool :=
  c.identifier.1 == some Builtin.timer.name ||
    c.skipBlanks.word.1 == some Keyword.reseed.spelling && c.skipBlanks.word.2.atEnd.1

def Timeless (c : Cursor) : Prop :=
  ∀ d, c.Reaches d → d.readsClock = false

variable {c d : Cursor}

theorem Timeless.of_reaches (h : c.Timeless) (hr : c.Reaches d) : d.Timeless :=
  fun e he => h e (hr.trans he)

theorem Timeless.identifier_ne (h : c.Timeless) : c.identifier.1 ≠ some Builtin.timer.name := by
  intro hi
  have hc := h c (.refl c)
  simp [readsClock, hi] at hc

theorem Timeless.not_atEnd (h : c.Timeless)
    (hw : c.skipBlanks.word.1 = some Keyword.reseed.spelling) :
    c.skipBlanks.word.2.atEnd.1 = false := by
  have hc := h c (.refl c)
  simp only [readsClock, hw, beq_self_eq_true, Bool.true_and, Bool.or_eq_false_iff] at hc
  exact hc.2

/-- Whether a line reads the clock can be seen from each of its places. -/
theorem timeless_start {text : Text}
    (h : ∀ n ≤ text.length, readsClock ⟨n, text.drop n⟩ = false) : (start text).Timeless := by
  intro d hr
  obtain ⟨hl, hd⟩ := hr.rest_eq_drop
  have hc := h d.column hl
  rwa [← hd] at hc

end Cursor

theorem Builtin.call_of_ne_timer {b : Builtin} (h : b ≠ timer) (clock clock' : Nat)
    (arguments : List Number) (g : Generator) :
    b.call clock' arguments g = b.call clock arguments g := by
  have value : b.value clock' arguments = b.value clock arguments := by
    cases b with
    | timer => exact absurd rfl h
    | _ => rcases arguments with _ | ⟨a, _ | ⟨b, _ | ⟨c, _ | _⟩⟩⟩ <;> rfl
  unfold call
  split
  · rfl
  · rw [value]

namespace Outlook

def clock : Outlook where
  alike _ _ g g' := g = g'
  hidden b := b = .timer
  roomier := False
  same _ _ _ _ _ _ := rfl
  call b other clock clock' g g' same arguments := by
    subst same
    rw [Builtin.call_of_ne_timer other clock clock']
    exact ⟨rfl, rfl⟩

theorem clear_clock {c : Cursor} (h : c.Timeless) : clock.Clear c := by
  rintro d reached b rfl
  exact (h.of_reaches reached).identifier_ne

end Outlook

namespace Statement

open Eval

theorem selectWithin_reseed {depth : Nat} {context : Context} {r r' : Reading}
    (hr : r.cursor.Timeless) (h : selectWithin depth context r = .ok (some .reseed) r') :
    r'.cursor.atEnd.1 = false := by
  induction depth generalizing r with
  | zero => cases h
  | succ depth ih =>
    rcases selectWithin_cases h with ⟨-, h⟩ | ⟨s, t, hk, hh, h⟩
    · obtain ⟨_, s, hs, h⟩ := bind_eq_ok_iff.mp h
      cases hs
      obtain ⟨word, t, hw, h⟩ := bind_eq_ok_iff.mp h
      obtain ⟨found, ht⟩ := scan_ok hw
      cases word with
      | none => cases h
      | some word =>
        dsimp only at h
        cases hk : Keyword.ofWord? word with
        | none =>
          rw [hk] at h
          cases h
        | some k =>
          rw [hk] at h
          cases h
          have spelled : Keyword.reseed.spelling = word := by simpa using List.find?_some hk
          rw [ht]
          exact hr.not_atEnd (spelled ▸ found)
    · have advances := (keyword_advances.of_ok hk).trans (holds_advances.of_ok hh)
      exact ih (hr.of_reaches advances.cursor) h

end Statement

end NumberedBasic
