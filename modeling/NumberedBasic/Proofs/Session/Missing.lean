import NumberedBasic.Proofs.Statement.Jump
import NumberedBasic.Proofs.Session.Snapshot

/-! # Missing lines

Whoever looks for a line that is missing is told its number. Deletions and continuations tell it
in its digits. A jump tells the value that it was given as numbers are written, which is another
text from seven digits on.
-/

namespace NumberedBasic

open Text

namespace Cause

def notFound (line : Text) : String :=
  "Line not found: " ++ String.ofList line

theorem notFound_inj {line line' : Text} : notFound line = notFound line' ↔ line = line' :=
  (String.append_right_inj _).trans String.ofList_inj

theorem message_lineMissing {n : Nat} (small : n ≤ 2 ^ 53) :
    (lineMissing n).message = notFound (Nat.toDigits 10 n) := by
  have digits : integerText n = Nat.toDigits 10 n := by
    rw [integerText, if_neg (by omega), Int.natAbs_natCast, List.nil_append]
  have writable : isWritable n = true :=
    isWritable_of_lt (Nat.lt_of_le_of_lt small (by decide : 2 ^ 53 < 10 ^ 16)) (by decide)
  have told : (lineMissing n).message = notFound (integerText n) := if_pos writable
  rw [told, digits]

theorem message_targetMissing (value : Number) :
    (targetMissing value).message = notFound value.text := rfl

end Cause

theorem Number.text_ofInt_eq_digits {n : Nat} (small : n ≤ 2 ^ 53) :
    (ofInt n).text = Nat.toDigits 10 n ↔ n < 10 ^ 6 := by
  have written := text_ofInt small
  split at written
  · exact iff_of_true written ‹_›
  · refine iff_of_false (fun same => ?_) ‹_›
    have digit := Nat.isDigit_of_mem_toDigits (by decide) (by decide) (same ▸ written)
    exact absurd digit (by decide)

namespace Machine

open Cause

variable {m : Machine}

theorem deleteLine_of_absent {n : Int} (absent : m.program.get? n = none) :
    m.deleteLine n = .error (.lineMissing n) := by
  simp [deleteLine, Program.delete, Table.contains, absent, Except.map]

theorem continueFor_of_absent {n : Int} (next : m.address[m.position]? = some n)
    (absent : m.program.get? n = none) (count : Nat) :
    ∃ final, m.continueFor (count + 1) = some (final, some ⟨.lineMissing n, n, 0⟩) := by
  have ready : m.resumed.next? = some n := next?_eq_some_iff.mpr ⟨rfl, next⟩
  obtain ⟨-, final, turn, -⟩ := misses_of_absent ready absent
  exact ⟨final, turns_of_ended turn⟩

theorem execute_digits_of_absent {n : Nat} (small : n ≤ 2 ^ 53) (running : m.running = true)
    (unlisted : (n : Int) ∉ m.address) {k : Keyword} (jumps : k = .jump ∨ k = .call)
    {digits line : Text} (nonempty : digits ≠ []) (all : ∀ c ∈ digits, isDigit c = true)
    (value : digitsValue digits = n) (wording : Statement.Says k [digits] line) :
    ∃ c room, Statement.execute (.start m line) =
      .error (.targetMissing (Number.ofInt n)) ⟨m, c, room⟩ := by
  have other : k ≠ .condition := by rcases jumps with rfl | rfl <;> decide
  obtain ⟨c, spaced, execute⟩ := wording.execute_eq other
  obtain ⟨d, sum⟩ :=
    Statement.sumBelow_of_digits m.context m.generator 1 (m.room + 14) spaced nonempty all
  rw [value] at sum
  refine ⟨d, m.room + 14, ?_⟩
  rw [execute]
  refine Statement.perform_of_not_mem (s := ⟨m, c, m.room + 14⟩) jumps running sum
    fun i mem truncates => ?_
  obtain rfl := (Number.truncates_ofInt small).mp truncates
  exact unlisted mem

/-- A line that is missing is named by its digits when it is deleted or taken up. A jump there
names its value, which is the same text exactly up to six digits. -/
theorem missing_line_named {n : Nat} (small : n ≤ 2 ^ 53) (running : m.running = true)
    (unlisted : (n : Int) ∉ m.address) (absent : m.program.get? n = none) :
    let named := notFound (Nat.toDigits 10 n)
    (∃ cause, m.deleteLine n = .error cause ∧ cause.message = named) ∧
    (∀ (waiting : Machine) count, waiting.address[waiting.position]? = some (n : Int) →
      waiting.program.get? n = none → ∃ final failure,
        waiting.continueFor (count + 1) = some (final, some failure) ∧
        failure.cause.message = named) ∧
    ∀ (k : Keyword) (digits line : Text), k = .jump ∨ k = .call → digits ≠ [] →
      (∀ c ∈ digits, isDigit c = true) → digitsValue digits = n → Statement.Says k [digits] line →
      ∃ cause t, Statement.execute (.start m line) = .error cause t ∧
        cause.message = notFound (Number.ofInt n).text ∧
        (cause.message = named ↔ n < 10 ^ 6) := by
  constructor
  · exact ⟨_, deleteLine_of_absent absent, message_lineMissing small⟩
  constructor
  · intro waiting count next gone
    obtain ⟨final, ended⟩ := continueFor_of_absent next gone count
    exact ⟨final, _, ended, message_lineMissing small⟩
  · intro k digits line jumps nonempty all value wording
    obtain ⟨c, room, failed⟩ :=
      execute_digits_of_absent small running unlisted jumps nonempty all value wording
    refine ⟨_, _, failed, message_targetMissing _, ?_⟩
    rw [message_targetMissing, notFound_inj]
    exact Number.text_ofInt_eq_digits small

/-- A number of two digits is named alike everywhere. -/
theorem ninety_nine_named :
    let m := { fresh 0 0 (.ofInput []) with running := true }
    ∃ cause t, Statement.execute (.start m (ofString "GOTO 99")) = .error cause t ∧
      cause.message = "Line not found: 99" := by
  intro m
  obtain ⟨-, -, jump⟩ := missing_line_named (n := 99) (m := m) (by decide) rfl (by decide)
    (by decide)
  have wording : Statement.Says .jump [['9', '9']] (ofString "GOTO" ++ ' ' :: ['9', '9']) :=
    .of_blank (by decide +kernel) (by decide +kernel) (.bare _)
  obtain ⟨cause, t, failed, -, alike⟩ := jump .jump ['9', '9'] _ (.inl rfl) (by decide)
    (List.all_eq_true.mp (by decide +kernel)) (by decide +kernel) wording
  exact ⟨cause, t, failed, alike.mpr (by decide)⟩

/-- A million is named by its digits when it is deleted, and with an exponent by a jump. -/
theorem million_named_otherwise :
    let m := { fresh 0 0 (.ofInput []) with running := true }
    (1000000 : Int) ∉ m.address ∧ m.program.get? 1000000 = none ∧
      ∃ cause cause' t,
        Statement.execute (.start m (ofString "GOTO 1000000")) = .error cause t ∧
        cause.message = "Line not found: 1e+06" ∧
        m.deleteLine 1000000 = .error cause' ∧ cause'.message = "Line not found: 1000000" := by
  intro m
  have wording : Statement.Says .jump [ofString "1000000"]
      (ofString "GOTO" ++ ' ' :: ofString "1000000") :=
    .of_blank (by decide +kernel) (by decide +kernel) (.bare _)
  obtain ⟨c, room, failed⟩ :=
    execute_digits_of_absent (m := m) (n := 1000000) (by decide) rfl (by decide)
    (.inl rfl) (by decide) (List.all_eq_true.mp (by decide +kernel)) (by decide +kernel) wording
  exact ⟨by decide, by decide, _, _, _, failed, by decide +kernel,
    deleteLine_of_absent (m := m) (n := 1000000) (by decide), by decide +kernel⟩

end Machine

end NumberedBasic
