import NumberedBasic.Proofs.Number.Integer
import NumberedBasic.Proofs.Grammar.Alone
import NumberedBasic.Proofs.Statement.Naming
import NumberedBasic.Proofs.Statement.Wording

/-! # Jumps

A jump goes to the line whose number is left of the value of a sum without its fraction. Lines are
looked up in the address table, and an ascending table has every number in one place. Integers up
to `2 ^ 53` are the values of their digits, so a jump to one of them goes to no other line.
-/

namespace NumberedBasic

open Text

namespace Statement

open Exec

def departed (k : Keyword) (m : Machine) (position : Nat) : Machine :=
  { m with
    position
    stack := if k = .call then .subroutine m.position :: m.stack else m.stack }

/-- A jump has led to the only place of a line and changed nothing else but the stack. -/
structure Lands (k : Keyword) (m m' : Machine) (n : Int) : Prop where
  place : m.address[m'.position]? = some n
  only : ∀ position, m.address[position]? = some n → position = m'.position
  change : m' = departed k m m'.position

section Perform

variable {s t : Execution} {k : Keyword} {value : Number} {r : Reading}

theorem target_of_sum (running : s.machine.running = true)
    (h : Eval.sumBelow 1 s.context s.reading = .ok value r) :
    target s = match value.truncate?.bind fun line => s.machine.address.idxOf? line with
      | some position => .ok position (s.moved r)
      | none => .error (.targetMissing value) (s.moved r) := by
  have required : evaluate (Eval.require s.machine.running fun _ => .notRunning) s = .ok () s := by
    rw [running]
    rfl
  have address : (s.moved r).machine.address = s.machine.address := rfl
  unfold target
  rw [bind_of_ok machine_apply]
  refine (bind_of_ok required _).trans ((bind_of_ok (evaluate_of_ok h) _).trans ?_)
  rw [bind_of_ok machine_apply, address]
  cases value.truncate?.bind fun line => s.machine.address.idxOf? line <;> rfl

variable (jumps : k = .jump ∨ k = .call)

include jumps

theorem perform_of_target {position : Nat} (h : target s = .ok position t) :
    perform (some k) s = .ok () { t with machine := departed k t.machine position } := by
  rcases jumps with rfl | rfl
  · exact (bind_of_ok h _).trans rfl
  · exact (bind_of_ok h _).trans rfl

theorem perform_of_no_target {cause : Cause} (h : target s = .error cause t) :
    perform (some k) s = .error cause t := by
  rcases jumps with rfl | rfl
  · exact bind_of_error h _
  · exact bind_of_error h _

variable (running : s.machine.running = true)
  (sum : Eval.sumBelow 1 s.context s.reading = .ok value r)

include running sum

theorem perform_of_mem {n : Int} (truncates : value.Truncates n) (mem : n ∈ s.machine.address) :
    ∃ position, s.machine.address[position]? = some n ∧
      perform (some k) s = .ok () ⟨departed k (s.moved r).machine position, r.cursor, r.room⟩ := by
  obtain ⟨position, found⟩ := Option.isSome_iff_exists.mp (List.isSome_idxOf?.mpr mem)
  obtain ⟨inside, there, -⟩ := List.idxOf?_eq_some_iff.mp found
  refine ⟨position, List.getElem?_eq_some_iff.mpr ⟨inside, there⟩, ?_⟩
  have target := target_of_sum running sum
  rw [Number.truncate?_eq_some_iff.mpr truncates, Option.bind_some, found] at target
  exact perform_of_target jumps target

theorem perform_of_not_mem (missing : ∀ n ∈ s.machine.address, ¬value.Truncates n) :
    perform (some k) s = .error (.targetMissing value) (s.moved r) := by
  have found : (value.truncate?.bind fun line => s.machine.address.idxOf? line) = none := by
    cases truncated : value.truncate? with
    | none => rfl
    | some n =>
      rw [Option.bind_some, List.idxOf?_eq_none_iff]
      exact fun mem => missing n mem (Number.truncate?_eq_some_iff.mp truncated)
  have target := target_of_sum running sum
  rw [found] at target
  exact perform_of_no_target jumps target

end Perform

theorem Lands.of_ascending {k : Keyword} {m : Machine} {n : Int} {position : Nat}
    (ascending : m.address.Pairwise (· < ·)) (place : m.address[position]? = some n) :
    Lands k m (departed k m position) n where
  place := place
  only other h := by
    have inside := (List.getElem?_eq_some_iff.mp h).1
    have distinct : m.address.Nodup := ascending.imp fun h => Int.ne_of_lt h
    exact (List.getElem?_inj inside distinct).mp (h.trans place.symm)
  change := rfl

theorem sumBelow_of_digits (context : Context) (generator : Generator) (calls room : Nat)
    {c : Cursor} {digits : Text} (spaced : Spaced [digits] c.rest) (nonempty : digits ≠ [])
    (all : ∀ c ∈ digits, isDigit c = true) :
    ∃ d : Cursor, Eval.sumBelow calls context ⟨c, generator, room⟩ =
      .ok (Number.ofInt (digitsValue digits)) ⟨d, generator, room⟩ := by
  obtain ⟨first, others, rfl⟩ := List.exists_cons_of_ne_nil nonempty
  have dark := not_isBlank_of_isNameChar (isNameChar_of_isDigit (all first List.mem_cons_self))
  obtain ⟨rest, ahead, spaced⟩ := spaced.dropWhile_of_cons dark
  have ahead : c.skipBlanks.rest = first :: others ++ rest := ahead
  have blank : ∀ c ∈ rest.head?, isBlank c = true := by
    cases spaced with
    | nil blank => exact fun c hc => blank c (List.mem_of_mem_head? hc)
  have ends : ∀ c ∈ rest.head?, isDigit c = false ∧ c ≠ '.' := fun c hc =>
    ⟨not_isDigit_of_isBlank (blank c hc), ne_point_of_isBlank (blank c hc)⟩
  have final : Final rest := by
    have none : rest.dropWhile isBlank = [] := spaced.dropWhile_of_nil
    constructor
    · rw [none]
      nofun
    · rw [none]
      decide
  rw [← Number.ofLiteral_of_digits all]
  exact ⟨_, Eval.arithmetic_of_literal context generator (l := ⟨_, none, nonempty, all, nofun⟩)
    ends ahead final _⟩

/-- A jump whose value leaves the number of a line in the table lands there, and any other one
fails where it is. -/
theorem execute_jump {m : Machine} (running : m.running = true)
    (ascending : m.address.Pairwise (· < ·)) {k : Keyword} (jumps : k = .jump ∨ k = .call)
    {c : Cursor} {room : Nat} {r r' : Reading} {value : Number}
    (selects : select m.context ⟨c, m.generator, room⟩ = .ok (some k) r)
    (sum : Eval.sumBelow 1 m.context r = .ok value r') :
    let moved := { m with generator := r'.generator }
    (∃ n t, n ∈ m.address ∧ value.Truncates n ∧ execute ⟨m, c, room⟩ = .ok () t ∧
      Lands k moved t.machine n) ∨
    (∀ n ∈ m.address, ¬value.Truncates n) ∧
      execute ⟨m, c, room⟩ = .error (.targetMissing value) ⟨moved, r'.cursor, r'.room⟩ := by
  let s : Execution := ⟨{ m with generator := r.generator }, r.cursor, r.room⟩
  rw [execute_of_selects selects]
  by_cases found : ∃ n ∈ m.address, value.Truncates n
  · obtain ⟨n, mem, truncates⟩ := found
    obtain ⟨position, place, done⟩ := perform_of_mem (s := s) jumps running sum truncates mem
    exact .inl ⟨n, _, mem, truncates, done, .of_ascending ascending place⟩
  · have missing : ∀ n ∈ m.address, ¬value.Truncates n := fun n mem truncates =>
      found ⟨n, mem, truncates⟩
    exact .inr ⟨missing, perform_of_not_mem (s := s) jumps running sum missing⟩

/-- A jump succeeds exactly if its value is finite and leaves the number of a line in the table
without its fraction. Then it lands on this line, and otherwise it fails where it is. -/
theorem jump_lands {m : Machine} (running : m.running = true)
    (ascending : m.address.Pairwise (· < ·)) {k : Keyword} (jumps : k = .jump ∨ k = .call) :
    (∀ c room r value r', select m.context ⟨c, m.generator, room⟩ = .ok (some k) r →
      Eval.sumBelow 1 m.context r = .ok value r' →
      let moved := { m with generator := r'.generator }
      ((∃ t, execute ⟨m, c, room⟩ = .ok () t) ↔ ∃ n ∈ m.address, value.Truncates n) ∧
      (∀ t, execute ⟨m, c, room⟩ = .ok () t →
        ∃ n, value.Truncates n ∧ Lands k moved t.machine n) ∧
      ∀ cause t, execute ⟨m, c, room⟩ = .error cause t →
        cause.kind = .control ∧ t.machine = moved) ∧
    ∀ (n : Nat) (digits line : Text), n ≤ 2 ^ 53 → digits ≠ [] →
      (∀ c ∈ digits, isDigit c = true) → digitsValue digits = n → Says k [digits] line →
      ((∃ t, execute (.start m line) = .ok () t) ↔ (n : Int) ∈ m.address) ∧
      ∀ t, execute (.start m line) = .ok () t → Lands k m t.machine n := by
  constructor
  · intro c room r value r' selects sum
    rcases execute_jump running ascending jumps selects sum with
      ⟨n, t, mem, truncates, done, lands⟩ | ⟨missing, done⟩
    · rw [done]
      constructor
      · exact ⟨fun _ => ⟨n, mem, truncates⟩, fun _ => ⟨t, rfl⟩⟩
      · constructor
        · rintro _ ⟨⟩
          exact ⟨n, truncates, lands⟩
        · rintro _ _ ⟨⟩
    · rw [done]
      constructor
      · constructor
        · rintro ⟨_, ⟨⟩⟩
        · rintro ⟨n, mem, truncates⟩
          exact absurd truncates (missing n mem)
      · constructor
        · rintro _ ⟨⟩
        · rintro _ _ ⟨⟩
          exact ⟨rfl, rfl⟩
  · rintro n digits line small nonempty all rfl wording
    have other : k ≠ .condition := by rcases jumps with rfl | rfl <;> decide
    obtain ⟨c, spaced, selects⟩ := wording.select other
    obtain ⟨d, sum⟩ :=
      sumBelow_of_digits m.context m.generator 1 (m.room + 14) spaced nonempty all
    rw [Execution.start]
    rcases execute_jump running ascending jumps (selects _ _ _) sum with
      ⟨i, t, mem, truncates, done, lands⟩ | ⟨missing, done⟩
    · obtain rfl := (Number.truncates_ofInt small).mp truncates
      rw [done]
      constructor
      · exact ⟨fun _ => mem, fun _ => ⟨t, rfl⟩⟩
      · rintro _ ⟨⟩
        exact lands
    · rw [done]
      constructor
      · constructor
        · rintro ⟨_, ⟨⟩⟩
        · exact fun mem => absurd ((Number.truncates_ofInt small).mpr rfl) (missing _ mem)
      · rintro _ ⟨⟩

/-- Digits lead to their line, and a fraction to the line before it. -/
theorem jumps_between_two_lines :
    let m := { Machine.fresh 0 0 (.ofInput []) with running := true, address := [10, 20] }
    (∃ t, execute (.start m (ofString "goto 20")) = .ok () t ∧ Lands .jump m t.machine 20) ∧
    ∃ t g, execute (.start m (ofString "GOSUB 10.9")) = .ok () t ∧
      Lands .call { m with generator := g } t.machine 10 := by
  intro m
  have ascending : m.address.Pairwise (· < ·) := by decide
  constructor
  · have wording : Says .jump [['2', '0']] (ofString "goto" ++ ' ' :: ['2', '0']) :=
      .of_blank (by decide +kernel) (by decide +kernel) (.bare _)
    obtain ⟨found, lands⟩ := (jump_lands rfl ascending (.inl rfl)).2 20 ['2', '0'] _ (by decide)
      (by decide) (List.all_eq_true.mp (by decide +kernel)) (by decide +kernel) wording
    obtain ⟨t, done⟩ := found.mpr (by decide)
    exact ⟨t, done, lands t done⟩
  · have computed : (outcome? (select m.context
        ⟨.start (ofString "GOSUB 10.9"), m.generator, 14⟩)).any (fun x =>
          decide (x.1 = some .call) &&
          (outcome? (Eval.sumBelow 1 m.context x.2)).any fun y =>
            decide (y.1.truncate? = some 10)) = true := by
      decide +kernel
    obtain ⟨⟨_, r⟩, selects, facts⟩ := (Option.any_eq_true _ _).mp computed
    rw [Bool.and_eq_true, decide_eq_true_eq] at facts
    obtain ⟨rfl, summed⟩ := facts
    obtain ⟨⟨value, r'⟩, sum, ten⟩ := (Option.any_eq_true _ _).mp summed
    have ten := Number.truncate?_eq_some_iff.mp (of_decide_eq_true ten)
    obtain ⟨found, lands, -⟩ := (jump_lands rfl ascending (.inr rfl)).1 _ _ _ _ _
      (outcome?_eq_some_iff.mp selects) (outcome?_eq_some_iff.mp sum)
    obtain ⟨t, done⟩ := found.mpr ⟨10, by decide, ten⟩
    obtain ⟨n, truncates, lands⟩ := lands t done
    exact ⟨t, _, done, ten.unique truncates ▸ lands⟩

end Statement

end NumberedBasic
