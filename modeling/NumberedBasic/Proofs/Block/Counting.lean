import NumberedBasic.Proofs.Number.Whole
import NumberedBasic.Proofs.Block.Refinement
import NumberedBasic.Proofs.Statement.Echo

/-! # Loops that count in integers

A counted loop between integers runs its body once for each value from the first one in steps up
to the limit, and at least once. Whatever lines the body has, it may not touch the variable and the
stack; then every sum on the way is exact and the loop is left behind its foot.
-/

namespace NumberedBasic

open Machine

/-- How many values the integers from `a` in steps of `s` have until they are past `b`, the first
one counted in any case. -/
def roundCount (a b s : Int) : Nat :=
  (max 1 (Int.fdiv (b - a) s + 1)).toNat

theorem roundCount_pos (a b s : Int) : 0 < roundCount a b s := by
  unfold roundCount
  omega

def IsBeyond (b s n : Int) : Prop :=
  if 0 < s then b < n else n < b

instance (b s n : Int) : Decidable (IsBeyond b s n) :=
  inferInstanceAs (Decidable (if 0 < s then b < n else n < b))

/-- The value after some steps is past the limit as soon as they are as many as counted. -/
theorem roundCount_le_iff {a b s : Int} (hs : s ≠ 0) {k : Nat} (hk : 0 < k) :
    roundCount a b s ≤ k ↔ IsBeyond b s (a + s * k) := by
  have quotient : roundCount a b s ≤ k ↔ Int.fdiv (b - a) s < k := by
    unfold roundCount
    omega
  rw [quotient, IsBeyond]
  rcases Int.lt_or_gt_of_ne hs with negative | positive
  · rw [if_neg (by omega), ← Int.neg_fdiv_neg, Int.fdiv_eq_ediv_of_nonneg _ (by omega),
      Int.ediv_lt_iff_lt_mul (by omega), Int.mul_neg, Int.mul_comm]
    omega
  · rw [if_pos positive, Int.fdiv_eq_ediv_of_nonneg _ (by omega), Int.ediv_lt_iff_lt_mul positive,
      Int.mul_comm]
    omega

theorem Statement.isPast_of_holds {value step limit : Number} {n s b : Int} (hv : value.Holds n)
    (hs : step.Holds s) (hb : limit.Holds b) :
    isPast value step limit = decide (IsBeyond b s n) := by
  have zero : (0 : Number).Holds 0 := Number.ofInt_holds (by decide)
  simp only [isPast, zero.less_eq hs, hb.less_eq hv, hv.less_eq hb, decide_eq_true_eq, IsBeyond]
  split <;> rfl

def Statement.givesStep : Eval Bool := do
  Eval.require (← Eval.keyword ['t', 'o']) (.expected ['t', 'o'])
  let _ ← Eval.sum
  Eval.keyword ['s', 't', 'e', 'p']

def Block.givesStep : Exec Bool := do
  let _ ← Statement.keyword
  let (name, first) ← Statement.loopStart
  Exec.change (·.assign name first)
  Statement.givesStep

theorem Statement.loopRange_without_step {context : Context} {r r' r'' : Reading}
    {limit step : Number} (range : loopRange context r = .ok (limit, step) r')
    (omitted : givesStep context r = .ok false r'') : step = 1 := by
  obtain ⟨found, r₁, h₁, range⟩ := Eval.bind_eq_ok_iff.mp range
  obtain ⟨_, r₂, h₂, range⟩ := Eval.bind_eq_ok_iff.mp range
  obtain ⟨_, r₃, h₃, range⟩ := Eval.bind_eq_ok_iff.mp range
  obtain ⟨step', r₄, h₄, range⟩ := Eval.bind_eq_ok_iff.mp range
  rw [givesStep, Eval.bind_of_ok h₁, Eval.bind_of_ok h₂, Eval.bind_of_ok h₃] at omitted
  rw [loopStep, Eval.bind_of_ok omitted] at h₄
  cases range
  obtain ⟨one, -⟩ : (1 : Number) = step ∧ r'' = r' := by simpa using h₄
  exact one.symm

theorem Block.header_without_step {d d' : Data} {head name : Text} {limit step : Number}
    (evaluated : d.perform header head = (d', .ok (name, limit, step)))
    (omitted : (d.perform givesStep head).2 = .ok false) : step = 1 := by
  unfold Data.perform at evaluated omitted
  split at evaluated
  · rename_i hh
    cases evaluated
    split at omitted
    · rename_i ho
      cases omitted
      obtain ⟨_, s₁, h₁, hh⟩ := Exec.bind_eq_ok_iff.mp hh
      obtain ⟨⟨name', first⟩, s₂, h₂, hh⟩ := Exec.bind_eq_ok_iff.mp hh
      obtain ⟨_, s₃, h₃, hh⟩ := Exec.bind_eq_ok_iff.mp hh
      obtain ⟨⟨limit', step'⟩, s₄, h₄, hh⟩ := Exec.bind_eq_ok_iff.mp hh
      cases hh
      rw [givesStep, Exec.bind_of_ok h₁, Exec.bind_of_ok h₂] at ho
      dsimp only at ho
      rw [Exec.bind_of_ok h₃] at ho
      obtain ⟨r, hr, -⟩ := Exec.evaluate_eq_ok_iff.mp h₄
      obtain ⟨r', hr', -⟩ := Exec.evaluate_eq_ok_iff.mp ho
      exact Statement.loopRange_without_step hr hr'
    · cases omitted
  · cases evaluated

namespace Machine

/-- Turns lead from one machine to another one at a position, which none of them takes up. -/
inductive Arrives (position : Nat) : Machine → Machine → Prop where
  | here {m : Machine} (there : m.position = position) : Arrives position m m
  | turned {m m' m'' : Machine} (elsewhere : m.position ≠ position) (turn : m.step = .going m')
      (later : Arrives position m' m'') : Arrives position m m''

/-- Between the two machines the body of a loop is run once: from its first line to the foot of the
loop, leaving the stack and the variable as they were and no pause behind. -/
structure RunsBody (name : Text) (foot : Nat) (m m' : Machine) : Prop where
  arrives : Arrives foot m m'
  stack : m'.stack = m.stack
  value : m'.variables.get? name = m.variables.get? name
  unhalted : m'.halted = false

/-- A round of the loop begins with the machine, either the first one or one after a body from
which the foot has led back to the start. -/
inductive BeginsRound (name : Text) (start foot : Nat) (first : Machine) : Machine → Prop where
  | first : BeginsRound name start foot first first
  | again {m m' m'' : Machine} (earlier : BeginsRound name start foot first m)
      (body : RunsBody name foot m m') (turn : m'.step = .going m'') (back : m''.position = start) :
      BeginsRound name start foot first m''

/-- The body is run once for each of the integers in turn, which the variable holds then, and
the foot leads back to the start until it leaves the loop with the last machine. -/
inductive Rounds (name : Text) (start foot : Nat) : Machine → List Int → Machine → Prop where
  | last {m m' exit : Machine} {x : Number} {n : Int} (value : m.variables.get? name = some x)
      (holds : x.Holds n) (body : RunsBody name foot m m') (turn : m'.step = .going exit)
      (left : exit.position = foot + 1) : Rounds name start foot m [n] exit
  | again {m m' m'' exit : Machine} {x : Number} {n : Int} {others : List Int}
      (value : m.variables.get? name = some x) (holds : x.Holds n) (body : RunsBody name foot m m')
      (turn : m'.step = .going m'') (back : m''.position = start)
      (later : Rounds name start foot m'' others exit) :
      Rounds name start foot m (n :: others) exit

variable {position : Nat} {m m' : Machine}

theorem Arrives.underway (h : Arrives position m m') : Underway m m' := by
  induction h with
  | here => exact .begun
  | turned _ turn _ ih => exact ih.head turn

theorem Arrives.position_eq (h : Arrives position m m') : m'.position = position := by
  induction h with
  | here there => exact there
  | turned _ _ _ ih => exact ih

end Machine

section Standing

variable {p : Program} {address : List Int} {m m' : Machine} {position : Nat}
  {stack : ControlStack Nat} {d : Data}

theorem Stands.underway (h : Stands p address m position stack d) (hu : Underway m m')
    (unhalted : m'.halted = false) : Stands p address m' m'.position m'.stack m'.data := by
  have kept : m'.program = p ∧ m'.address = address ∧ m'.running = true := by
    refine hu.keeps (p := fun m => m.program = p ∧ m.address = address ∧ m.running = true)
      ⟨h.program, h.address, h.running⟩ ?_
    rintro before after ⟨program, table, running⟩ turn
    obtain ⟨-, number, text, u, s, -, -, he, rfl⟩ := step_eq_going_iff.mp turn
    have fixed := Statement.execute_ok_fixed he
    obtain ⟨errors, ht⟩ := before.exists_taken_eq number
    rw [ht] at fixed
    exact ⟨fixed.program.trans program, fixed.address.trans table, fixed.running.trans running⟩
  exact ⟨kept.1, kept.2.1, rfl, rfl, rfl, kept.2.2, unhalted⟩

theorem Stands.runsBody {name : Text} {foot : Nat} (h : Stands p address m position stack d)
    (body : RunsBody name foot m m') :
    Stands p address m' foot stack m'.data ∧ m'.data.variables.get? name =
      d.variables.get? name := by
  have stands := h.underway body.arrives.underway body.unhalted
  rw [body.arrives.position_eq, body.stack, h.stack] at stands
  refine ⟨stands, body.value.trans ?_⟩
  rw [← h.data]
  rfl

end Standing

section Counting

variable {p : Program} {address : List Int} {m first : Machine} {start foot : Nat}
  {stack : ControlStack Nat} {d : Data} {name footText : Text} {step limit : Number} {a b s : Int}

/-- Behind the body the foot adds the step exactly, and leaves the loop if the sum is past the
limit. -/
theorem exists_foot_turn (names : Block.Names .next name footText)
    (line : LineAt p address foot footText) (hs : step.Holds s) (hb : limit.Holds b) {x : Number}
    {n : Int} (hx : x.Holds n) (within : (n + s).natAbs ≤ 2 ^ 53) {m' : Machine}
    (h : Stands p address m start (.count step limit start :: stack) d)
    (value : d.variables.get? name = some x) (body : RunsBody name foot m m') :
    ∃ m'' d'' x', m'.step = .going m'' ∧ d''.variables.get? name = some x' ∧ x'.Holds (n + s) ∧
      (IsBeyond b s (n + s) ∧ Stands p address m'' (foot + 1) stack d'' ∨
        ¬IsBeyond b s (n + s) ∧
          Stands p address m'' start (.count step limit start :: stack) d'') := by
  obtain ⟨stands, kept⟩ := h.runsBody body
  have sum := hx.add hs within
  have past := Statement.isPast_of_holds sum hs hb
  have bound : (m'.data.variables.insert name (x.add step)).get? name = some (x.add step) := by
    rw [Table.get?_insert, if_pos rfl]
  obtain ⟨m'', turn, ⟨leaves, there⟩ | ⟨stays, there⟩⟩ :=
    stands.next_turn names line (kept.trans value)
  · have beyond := of_decide_eq_true (past.symm.trans leaves)
    exact ⟨m'', _, _, turn, bound, sum, .inl ⟨beyond, there⟩⟩
  · have within := of_decide_eq_false (past.symm.trans stays)
    exact ⟨m'', _, _, turn, bound, sum, .inr ⟨within, there⟩⟩

/-- From the start of a round, the loop goes through the values that are left. -/
theorem exists_rounds_left (names : Block.Names .next name footText)
    (line : LineAt p address foot footText) (hs : step.Holds s) (hb : limit.Holds b)
    (nonzero : s ≠ 0) (b_le : b.natAbs ≤ 2 ^ 52) (s_le : s.natAbs ≤ 2 ^ 52)
    (bodies : ∀ m, BeginsRound name start foot first m → ∃ m', RunsBody name foot m m')
    {k left : Nat} (count : roundCount a b s = k + (left + 1)) {x : Number}
    (hx : x.Holds (a + s * k)) (within : (a + s * k).natAbs ≤ 2 ^ 52)
    (begins : BeginsRound name start foot first m)
    (h : Stands p address m start (.count step limit start :: stack) d)
    (value : d.variables.get? name = some x) :
    ∃ exit d' x', Rounds name start foot m
        ((List.range' k (left + 1)).map fun k : Nat => a + s * k) exit ∧
      Stands p address exit (foot + 1) stack d' ∧ d'.variables.get? name = some x' ∧
      x'.Holds (a + s * roundCount a b s) := by
  -- on the rounds that are left; the round with number `k` has the value `a + s * k`
  induction left generalizing k m d x with
  | zero =>
    obtain ⟨m', body⟩ := bodies m begins
    have bound : m.data.variables.get? name = some x := h.data.symm ▸ value
    have next : a + s * k + s = a + s * (k + 1 : Nat) := by push_cast; ring
    have past := (roundCount_le_iff (a := a) (b := b) nonzero (Nat.succ_pos k)).mp count.le
    obtain ⟨exit, d', x', turn, value', hx', ⟨-, there⟩ | ⟨stays, -⟩⟩ :=
      exists_foot_turn names line hs hb hx (by omega) h value body
    · rw [next] at hx'
      rw [count]
      exact ⟨exit, d', x', .last bound hx body turn there.position, there, value', hx'⟩
    · rw [next] at stays
      exact absurd past stays
  | succ left ih =>
    obtain ⟨m', body⟩ := bodies m begins
    have bound : m.data.variables.get? name = some x := h.data.symm ▸ value
    have next : a + s * k + s = a + s * (k + 1 : Nat) := by push_cast; ring
    have stays := (roundCount_le_iff (a := a) (b := b) nonzero (Nat.succ_pos k)).not.mp (by omega)
    obtain ⟨m'', d'', x'', turn, value', hx', ⟨past, -⟩ | ⟨-, there⟩⟩ :=
      exists_foot_turn names line hs hb hx (by omega) h value body
    · rw [next] at past
      exact absurd past stays
    -- a value that is not past the limit is no larger than the first one or the limit
    · have within' : (a + s * k + s).natAbs ≤ 2 ^ 52 := by
        rw [← next, IsBeyond] at stays
        split at stays <;> omega
      rw [next] at hx' within'
      obtain ⟨exit, d', x', rounds, rest⟩ := ih (by omega) hx' within'
        (begins.again body turn there.position) there value'
      exact ⟨exit, d', x', .again bound hx body turn there.position rounds, rest⟩

/-- A loop between integers up to `2 ^ 52` runs its body once for each value from the first one in
steps up to the limit, at least once, and is left behind its foot, with its frame dropped and the
variable one exact step further. Without a step in the head, the steps are of one. -/
theorem counted_loop_rounds {position : Nat} {d' : Data} {head name' : Text} {x : Number}
    (h : Stands p address m position stack d) (headLine : LineAt p address position head)
    (heads : Block.Names .count name head)
    (evaluated : d.perform Block.header head = (d', .ok (name', limit, step)))
    (bound : d'.variables.get? name = some x) (hx : x.Holds a) (hb : limit.Holds b)
    (hs : step.Holds s) (a_le : a.natAbs ≤ 2 ^ 52) (b_le : b.natAbs ≤ 2 ^ 52)
    (s_le : s.natAbs ≤ 2 ^ 52) (nonzero : s ≠ 0) (footLine : LineAt p address foot footText)
    (feet : Block.Names .next name footText)
    (bodies : ∀ first, m.step = .going first → ∀ m, BeginsRound name (position + 1) foot first m →
      ∃ m', RunsBody name foot m m') :
    ∃ first exit x', m.step = .going first ∧
      Rounds name (position + 1) foot first
        ((List.range (roundCount a b s)).map fun k : Nat => a + s * k) exit ∧
      exit.position = foot + 1 ∧ exit.stack = stack ∧ exit.variables.get? name = some x' ∧
      x'.Holds (a + s * roundCount a b s) ∧
      ((d.perform Block.givesStep head).2 = .ok false → s = 1) := by
  obtain ⟨⟨first, turn, stands⟩, rfl, -⟩ := heads.begins headLine h evaluated
  have one : (1 : Number).Holds 1 := Number.ofInt_holds (by decide)
  obtain ⟨left, count⟩ := Nat.exists_eq_add_one.mpr (roundCount_pos a b s)
  have start : a + s * (0 : Nat) = a := by simp
  obtain ⟨exit, d'', x', rounds, there, value, holds⟩ := exists_rounds_left feet footLine hs hb
    nonzero b_le s_le (bodies first turn) (k := 0) (count.trans (Nat.zero_add _).symm)
    (start.symm ▸ hx) (start.symm ▸ a_le) .first stands bound
  rw [← List.range_eq_range', ← count] at rounds
  refine ⟨first, exit, x', turn, rounds, there.position, there.stack, ?_, holds, fun omitted => ?_⟩
  · rw [← there.data] at value
    exact value
  · rw [Block.header_without_step evaluated omitted] at hs
    exact hs.unique one

/-- Every round begins where the first one did, with the frame on the stack and the variable
bound. -/
theorem Machine.BeginsRound.stands (names : Block.Names .next name footText)
    (line : LineAt p address foot footText) (apart : foot + 1 ≠ start) {x : Number}
    (h : Stands p address first start (.count step limit start :: stack) d)
    (bound : d.variables.get? name = some x) (begins : BeginsRound name start foot first m) :
    ∃ d' x', Stands p address m start (.count step limit start :: stack) d' ∧
      d'.variables.get? name = some x' := by
  induction begins with
  | first => exact ⟨d, x, h, bound⟩
  | again _ body turn back ih =>
    obtain ⟨d', x', stands, value⟩ := ih
    obtain ⟨there, kept⟩ := stands.runsBody body
    obtain ⟨m', going, ⟨-, left⟩ | ⟨-, led⟩⟩ := there.next_turn names line (kept.trans value)
    · cases turn.symm.trans going
      exact absurd (left.position.symm.trans back) apart
    · cases turn.symm.trans going
      exact ⟨_, x'.add step, led, by rw [Table.get?_insert, if_pos rfl]⟩

theorem Stands.runsBody_of_turn {m' : Machine} {d' : Data} (h : Stands p address m start stack d)
    (turn : m.step = .going m') (h' : Stands p address m' (start + 1) stack d')
    (value : d'.variables.get? name = d.variables.get? name) :
    RunsBody name (start + 1) m m' := by
  refine ⟨.turned ?_ turn (.here h'.position), h'.stack.trans h.stack.symm, ?_, h'.halted⟩
  · rw [h.position]
    exact (Nat.succ_ne_self start).symm
  · rw [← h.data, ← h'.data] at value
    exact value

theorem Stands.printed_turn {v : VariableName} {x : Number}
    (h : Stands p address m start stack d)
    (line : LineAt p address start (Statement.printing [v]))
    (held : d.variables.get? (Text.lower v.spelling) = some x) :
    ∃ m' d', m.step = .going m' ∧ Stands p address m' (start + 1) stack d' ∧
      d'.variables = d.variables := by
  obtain ⟨m', turn, d', there, kept⟩ := h.turn_going line
    (q := fun m' => ∃ d', Stands p address m' (start + 1) stack d' ∧ d'.variables = d.variables)
    fun m' h' => by
      have same : m'.variables = d.variables := congrArg Data.variables h'.data
      have held : Statement.Holds m'.variables [(v, x)] :=
        List.forall_mem_singleton.mpr (same ▸ held)
      obtain ⟨c, printed⟩ := Statement.execute_printing (List.cons_ne_nil _ _) held
      exact ⟨_, c, _, printed, _, ⟨h'.program, h'.address, h'.position, h'.stack, rfl, h'.running,
        h'.halted⟩, same⟩
  exact ⟨m', d', turn, there, kept⟩

end Counting

/-- A loop that counts down past its limit and writes its variable. -/
theorem written_loop_rounds :
    let head : Text := ['F', 'O', 'R', ' ', 'I', '=', '5', ' ', 'T', 'O', ' ', '0', ' ', 'S', 'T',
      'E', 'P', ' ', '-', '2']
    let line : Text := ['P', 'R', 'I', 'N', 'T', ' ', 'I']
    let foot : Text := ['N', 'E', 'X', 'T', ' ', 'I']
    let m := (((fresh 0 0 (.ofInput [])).storeLine 10 head).storeLine 20 line).storeLine 30 foot
    ∃ first exit x, m.restarted.step = .going first ∧ Rounds ['i'] 1 2 first [5, 3, 1] exit ∧
      exit.position = 3 ∧ exit.stack = [] ∧ exit.variables.get? ['i'] = some x ∧ x.Holds (-1) := by
  intro head line foot m
  have counts : (Cursor.start head).skipBlanks.word.1 = some ['f', 'o', 'r'] := by decide +kernel
  have nexts : (Cursor.start foot).skipBlanks.word.1 = some ['n', 'e', 'x', 't'] := by
    decide +kernel
  have heads : Block.Names .count ['i'] head := .of_word counts rfl rfl
  have feet : Block.Names .next ['i'] foot := .of_word nexts rfl rfl
  have laid : Laid m.program m.program.lineNumbers 0 [head, line, foot] := by
    have stored : m.program.entries.map (·.2) = [head, line, foot] := by decide +kernel
    exact stored ▸ m.program.laid
  obtain ⟨d, evaluated, bound⟩ : ∃ d, m.data.perform Block.header head =
      (d, .ok (['i'], .ofInt 0, .ofInt (-2))) ∧ d.variables.get? ['i'] = some (.ofInt 5) := by
    have values : (m.data.perform Block.header head).2 =
        .ok (['i'], Number.ofInt 0, Number.ofInt (-2)) := by
      decide +kernel
    have bound : (m.data.perform Block.header head).1.variables.get? ['i'] =
        some (Number.ofInt 5) := by
      decide +kernel
    generalize m.data.perform Block.header head = result at values bound
    exact ⟨result.1, Prod.ext rfl values, bound⟩
  let counter : VariableName :=
    ⟨['I'], Statement.isName_letter (by decide +kernel), by decide +kernel, by decide +kernel⟩
  have written : Statement.printing [counter] = line := by decide +kernel
  have count : roundCount 5 0 (-2) = 3 := by decide
  have values : (List.range 3).map (fun k : Nat => (5 + -2 * k : Int)) = [5, 3, 1] := by decide
  clear_value m
  have small {n : Int} (h : n.natAbs ≤ 5) : n.natAbs ≤ 2 ^ 52 ∧ (Number.ofInt n).Holds n :=
    ⟨by omega, Number.ofInt_holds (by omega)⟩
  obtain ⟨first, exit, x, turn, rounds, position, stack, value, holds, -⟩ :=
    counted_loop_rounds m.restarted_stands laid.head heads evaluated bound
      (small (n := 5) (by decide)).2 (small (n := 0) (by decide)).2 (small (n := -2) (by decide)).2
      (small (by decide)).1 (small (by decide)).1 (small (by decide)).1 (by decide)
      laid.tail.tail.head feet fun first turn m' begins => by
        obtain ⟨⟨first', turn', stands⟩, -, -⟩ :=
          heads.begins laid.head m.restarted_stands evaluated
        obtain rfl := Turn.going.inj (turn.symm.trans turn')
        obtain ⟨d', x, there, value⟩ :=
          begins.stands feet laid.tail.tail.head (by decide) stands bound
        obtain ⟨m'', d'', printed, behind, kept⟩ :=
          there.printed_turn (v := counter) (written ▸ laid.tail.head) value
        exact ⟨m'', there.runsBody_of_turn printed behind (by rw [kept])⟩
  rw [count, values] at rounds
  rw [count] at holds
  exact ⟨first, exit, x, turn, rounds, position, stack, value, holds⟩

end NumberedBasic
