import NumberedBasic.Proofs.Statement.Failure

/-! # Complaints about lines

Only jumps look for lines, and they look in the table of the run. A statement
therefore never complains that a line of this table is missing.
-/

namespace NumberedBasic

def Cause.missing? : Cause → Option Int
  | lineMissing number => some number
  | targetMissing value => value.truncate?
  | _ => none

namespace Builtin

variable {b : Builtin} {clock : Nat} {arguments : List Number} {cause : Cause}

theorem whenDefined_error {value : Option Number} (h : whenDefined b value = .error cause) :
    cause = .undefinedIn b.name := by
  cases value with
  | some a => cases h
  | none => exact (Except.error.inj h).symm

theorem unlessInfinite_error {f : Number → Number} {a : Number}
    (h : unlessInfinite b f a = .error cause) : cause = .undefinedIn b.name := by
  cases a with
  | infinite => exact (Except.error.inj h).symm
  | _ => cases h

theorem remainder_error {a c : Number} (h : remainder a c = .error cause) :
    cause = .undefinedIn mod.name ∨ cause = .divisionByZeroIn mod.name := by
  unfold remainder at h
  split at h
  · exact .inl (Except.error.inj h).symm
  · exact .inr (Except.error.inj h).symm
  · split at h
    · exact .inl (Except.error.inj h).symm
    · cases h

theorem value_error_missing? (h : b.value clock arguments = .error cause) :
    cause.missing? = none := by
  unfold value at h
  split at h
  case h_12 =>
    rcases remainder_error h with rfl | rfl
    · rfl
    · rfl
  all_goals first
    | cases h; done
    | cases h; rfl
    | rw [whenDefined_error h]; rfl
    | rw [unlessInfinite_error h]; rfl

end Builtin

namespace Eval

variable {α β : Type}

def SparesLines (e : Eval α) : Prop :=
  ∀ ⦃context : Context⦄ ⦃r : Reading⦄ ⦃cause : Cause⦄ ⦃s : Reading⦄,
    e context r = .error cause s → cause.missing? = none

namespace SparesLines

variable {e : Eval α} {f : α → Eval β}

theorem pure (a : α) : (pure a : Eval α).SparesLines := nofun

theorem throw {cause : Cause} (h : cause.missing? = none) :
    (throw cause : Eval α).SparesLines := by
  rintro _ _ _ _ ⟨⟩
  exact h

theorem bind (he : e.SparesLines) (hf : ∀ a, (f a).SparesLines) : (e >>= f).SparesLines := by
  intro context r cause s h
  rcases bind_eq_error_iff.mp h with h | ⟨a, t, -, h⟩
  · exact he h
  · exact hf a h

theorem ite {p : Prop} [Decidable p] {e' : Eval α} (he : e.SparesLines) (he' : e'.SparesLines) :
    (if p then e else e').SparesLines := by
  split
  · exact he
  · exact he'

theorem scan (matcher : Cursor → α × Cursor) : (scan matcher).SparesLines := nofun

theorem scanStrictly {matcher : Cursor → Except Cause α × Cursor}
    (h : ∀ c cause, (matcher c).1 = .error cause → cause.missing? = none) :
    (scanStrictly matcher).SparesLines := by
  intro context r cause s hs
  unfold Eval.scanStrictly at hs
  split at hs
  · cases hs
  · rename_i hm
    cases hs
    exact h r.cursor _ (congrArg Prod.fst hm)

protected theorem byRoom {e : Nat → Eval α} (h : ∀ room, (e room).SparesLines) :
    (Eval.byRoom e).SparesLines :=
  fun _ r _ _ => @h r.room _ _ _ _

end SparesLines

section Steps

theorem failNear_sparesLines {cause : Text → Cause} (h : ∀ rest, (cause rest).missing? = none) :
    (failNear cause : Eval α).SparesLines := by
  rintro _ _ _ _ ⟨⟩
  exact h _

theorem require_sparesLines (found : Bool) {cause : Text → Cause}
    (h : ∀ rest, (cause rest).missing? = none) : (require found cause).SparesLines :=
  .ite (.pure ()) (failNear_sparesLines h)

theorem remaining_sparesLines : remaining.SparesLines := nofun

theorem descend_sparesLines : descend.SparesLines := nofun

theorem valueOf?_sparesLines (name : Text) : (valueOf? name).SparesLines := nofun

theorem demand_sparesLines (expected : Text) : (demand expected).SparesLines := by
  refine .scanStrictly fun c cause h => ?_
  unfold Cursor.demand at h
  split at h
  · cases h
  · cases h
    rfl

theorem name_sparesLines : name.SparesLines := by
  refine .scanStrictly fun c cause h => ?_
  unfold Cursor.demandIdentifier at h
  split at h
  · cases h
  · cases h
    rfl

theorem string_sparesLines : (scanStrictly Cursor.string).SparesLines := by
  refine .scanStrictly fun c cause h => ?_
  unfold Cursor.string at h
  dsimp only at h
  split at h
  · cases h
  · split at h
    · split at h <;> cases h
      rfl
    · cases h

theorem ofExcept_sparesLines {x : Except Cause α}
    (h : ∀ cause, x = .error cause → cause.missing? = none) : (ofExcept x).SparesLines := by
  cases x with
  | ok a => exact .pure a
  | error cause => exact .throw (h cause rfl)

theorem apply_sparesLines (o : Operator) (left right : Number) :
    (ofExcept (o.apply left right)).SparesLines := by
  refine ofExcept_sparesLines fun cause h => ?_
  unfold Operator.apply at h
  split at h
  case h_6 => split at h <;> cases h; rfl
  all_goals cases h

theorem call_sparesLines (b : Builtin) (arguments : List Number) :
    (call b arguments).SparesLines := by
  intro context r cause s h
  unfold call at h
  split at h
  · cases h
  · rename_i hb
    cases h
    unfold Builtin.call at hb
    split at hb
    · cases hb
    · exact Builtin.value_error_missing? (congrArg Prod.fst hb)

end Steps

section Repetition

variable {item : Eval α} (spares : item.SparesLines)

include spares

theorem further_sparesLines (expected : Text) (count : Nat) :
    (further (literal expected) item count).SparesLines := by
  induction count with
  | zero => exact .pure []
  | succ count ih =>
    exact SparesLines.bind (.scan _) fun _ =>
      .ite (spares.bind fun _ => ih.bind fun _ => .pure _) (.pure [])

theorem separatedBy_sparesLines (expected : Text) : (separatedBy expected item).SparesLines :=
  spares.bind fun _ => remaining_sparesLines.bind fun count =>
    (further_sparesLines spares expected count).bind fun _ => .pure _

end Repetition

section Chains

variable {operator : Cursor → Option Operator × Cursor} {operand : Eval Number}
  (spares : operand.SparesLines)

include spares

theorem extend?_sparesLines (left : Number) : (extend? operator operand left).SparesLines := by
  refine SparesLines.bind (.scan _) fun found => ?_
  cases found with
  | none => exact .pure none
  | some o =>
    exact spares.bind fun right => (apply_sparesLines o left right).bind fun _ => .pure _

theorem chainFrom_sparesLines (count : Nat) (left : Number) :
    (chainFrom operator operand count left).SparesLines := by
  induction count generalizing left with
  | zero => exact .pure left
  | succ count ih =>
    refine (extend?_sparesLines spares left).bind fun value => ?_
    cases value with
    | none => exact .pure left
    | some value => exact ih value

theorem chain_sparesLines : (chain operator operand).SparesLines := by
  refine spares.bind fun first => (extend?_sparesLines spares first).bind fun value => ?_
  cases value with
  | none => exact .pure first
  | some value =>
    exact remaining_sparesLines.bind fun count => chainFrom_sparesLines spares count value

end Chains

section Levels

variable {nesting : Nesting}

theorem closeParenthesis_sparesLines : closeParenthesis.SparesLines :=
  SparesLines.bind (.scan _) fun found => require_sparesLines found fun _ => rfl

theorem sign_sparesLines : sign.SparesLines :=
  SparesLines.bind (.scan _) fun _ => .ite (.pure true) nofun

variable (spares : nesting.All SparesLines)

include spares

theorem arguments_sparesLines : (arguments nesting).SparesLines := by
  refine SparesLines.bind (.scan _) fun _ => .ite ?_ (.pure [])
  refine SparesLines.bind (.scan _) fun _ => .ite (.pure []) ?_
  exact (separatedBy_sparesLines spares.argument _).bind fun values =>
    closeParenthesis_sparesLines.bind fun _ => .pure values

theorem named_sparesLines (negative : Bool) (name : Text) :
    (named nesting negative name).SparesLines := by
  unfold named
  split
  · refine .ite ?_ (.throw rfl)
    exact (arguments_sparesLines spares).bind fun values => call_sparesLines _ values
  · refine (valueOf?_sparesLines name).bind fun value => ?_
    cases value with
    | none => exact .throw rfl
    | some value => exact .pure _

theorem factor_sparesLines : (factor nesting).SparesLines := by
  refine sign_sparesLines.bind fun negative => SparesLines.bind (.scan _) fun token => ?_
  cases token with
  | some token => exact .pure _
  | none =>
    refine SparesLines.bind (.scan _) fun name => ?_
    cases name with
    | some name => exact named_sparesLines spares negative name
    | none =>
      refine SparesLines.bind (.scan _) fun _ => .ite ?_ (failNear_sparesLines fun _ => rfl)
      exact spares.group.bind fun _ => closeParenthesis_sparesLines.bind fun _ => .pure _

theorem arithmetic_sparesLines : (arithmetic nesting).SparesLines :=
  chain_sparesLines (chain_sparesLines (factor_sparesLines spares))

theorem comparison_sparesLines : (comparison nesting).SparesLines := by
  refine (arithmetic_sparesLines spares).bind fun left =>
    SparesLines.bind (.scan _) fun relation => ?_
  cases relation with
  | none => exact .pure left
  | some relation => exact (arithmetic_sparesLines spares).bind fun _ => .pure _

theorem negation_sparesLines : (negation nesting).SparesLines :=
  SparesLines.bind (.scan _) fun _ =>
    .ite ((comparison_sparesLines spares).bind fun _ => .pure _) (comparison_sparesLines spares)

theorem disjunction_sparesLines : (disjunction nesting).SparesLines :=
  chain_sparesLines (chain_sparesLines (negation_sparesLines spares))

end Levels

theorem breakOff_sparesLines {operand : Eval Unit} (spares : operand.SparesLines) :
    (breakOff operand).SparesLines := by
  have keyword : (keyword ['n', 'o', 't']).SparesLines := .scan _
  exact (keyword.bind fun _ => .pure _).bind fun _ => spares.bind fun _ => .throw rfl

theorem expressionWithin_sparesLines (room : Nat) : (expressionWithin room).SparesLines :=
  expressionWithin_induction (.throw rfl) (breakOff_sparesLines (.pure ()))
    (fun _ h => breakOff_sparesLines ((factor_sparesLines h).bind fun _ => .pure _))
    (fun _ h => disjunction_sparesLines h) room

theorem expressionBelow_sparesLines (calls : Nat) : (expressionBelow calls).SparesLines :=
  .byRoom fun _ => expressionWithin_sparesLines _

theorem expression_sparesLines : expression.SparesLines :=
  expressionBelow_sparesLines 0

theorem sumBelow_sparesLines (calls : Nat) : (sumBelow calls).SparesLines :=
  .byRoom fun _ => arithmetic_sparesLines (nestingWithin_all expressionWithin_sparesLines _)

theorem sum_sparesLines : sum.SparesLines :=
  sumBelow_sparesLines 0

end Eval

namespace Statement

section Evaluations

open Eval

theorem keyword_sparesLines : keyword.SparesLines := by
  refine SparesLines.bind (.scan _) fun _ => SparesLines.bind (.scan _) fun word => ?_
  cases word with
  | none => exact failNear_sparesLines fun _ => rfl
  | some word =>
    dsimp only
    split
    · exact .pure _
    · exact .throw rfl

theorem holds_sparesLines : holds.SparesLines :=
  expression_sparesLines.bind fun _ => SparesLines.bind (.scan _) fun found =>
    (require_sparesLines found fun _ => rfl).bind fun _ => descend_sparesLines.bind fun _ =>
      .pure _

theorem selectWithin_sparesLines (depth : Nat) : (selectWithin depth).SparesLines := by
  induction depth with
  | zero => exact .throw rfl
  | succ depth ih =>
    refine keyword_sparesLines.bind fun k => ?_
    split
    · exact holds_sparesLines.bind fun _ => .ite ih (SparesLines.bind (.scan _) fun _ => .pure none)
    · exact .pure _

theorem select_sparesLines : select.SparesLines :=
  .byRoom fun _ => selectWithin_sparesLines _

theorem loopStart_sparesLines : loopStart.SparesLines :=
  name_sparesLines.bind fun _ => (demand_sparesLines _).bind fun _ =>
    sum_sparesLines.bind fun _ => .pure _

theorem loopStep_sparesLines : loopStep.SparesLines := by
  refine SparesLines.bind (.scan _) fun _ => .ite ?_ (.pure 1)
  exact sum_sparesLines.bind fun step => .ite (.throw rfl) (.pure step)

theorem loopRange_sparesLines : loopRange.SparesLines :=
  SparesLines.bind (.scan _) fun found => (require_sparesLines found fun _ => rfl).bind fun _ =>
    sum_sparesLines.bind fun _ => loopStep_sparesLines.bind fun _ => .pure _

theorem repeats_sparesLines : repeats.SparesLines := by
  have condition (f : Number → Bool) : (do return f (← expression)).SparesLines :=
    expression_sparesLines.bind fun _ => .pure _
  refine SparesLines.bind (.scan _) fun _ => .ite (condition _) ?_
  exact SparesLines.bind (.scan _) fun _ =>
    .ite (condition _) (failNear_sparesLines fun _ => rfl)

theorem printable_sparesLines : printable.SparesLines := by
  refine string_sparesLines.bind fun content => ?_
  cases content with
  | some content => exact .pure _
  | none => exact (expressionBelow_sparesLines 1).bind fun _ => .pure _

theorem printFurther_sparesLines (items : Nat) (text : String) (isOpen : Bool) :
    (printFurther items text isOpen).SparesLines := by
  induction items generalizing text isOpen with
  | zero => exact .pure _
  | succ items ih =>
    refine SparesLines.bind (.scan _) fun separator => ?_
    cases separator with
    | none => exact .pure _
    | some separator =>
      refine .ite ?_ (printable_sparesLines.bind fun _ => ih _ _)
      exact SparesLines.bind (.scan _) fun _ =>
        .ite (.pure _) (printable_sparesLines.bind fun _ => ih _ _)

theorem printList_sparesLines : printList.SparesLines :=
  SparesLines.bind (.scan _) fun _ => .ite (.pure _) <| printable_sparesLines.bind fun first =>
    remaining_sparesLines.bind fun items =>
      (printFurther_sparesLines items first false).bind fun _ => .pure _

theorem inputList_sparesLines : inputList.SparesLines := by
  have names : (separatedBy [','] Eval.name).SparesLines :=
    separatedBy_sparesLines name_sparesLines _
  refine string_sparesLines.bind fun prompt => ?_
  cases prompt with
  | none => exact names.bind fun _ => .pure _
  | some prompt =>
    exact SparesLines.bind (.scan _) fun found =>
      (require_sparesLines found fun _ => rfl).bind fun _ => names.bind fun _ => .pure _

end Evaluations

end Statement

namespace Exec

variable {α β : Type}

def SparesLines (x : Exec α) : Prop :=
  ∀ ⦃s : Execution⦄ ⦃cause : Cause⦄ ⦃t : Execution⦄, x s = .error cause t → cause.missing? = none

namespace SparesLines

theorem evaluate {e : Eval α} (h : e.SparesLines) : (evaluate e).SparesLines := by
  intro s cause t he
  obtain ⟨r, hr, -⟩ := evaluate_eq_error_iff.mp he
  exact h hr

theorem ofExcept {x : Except Cause α} (h : ∀ cause, x = .error cause → cause.missing? = none) :
    (ofExcept x).SparesLines :=
  fun _ _ _ he => h _ (ofExcept_error he).1

theorem throw {cause : Cause} (h : cause.missing? = none) : (throw cause : Exec α).SparesLines :=
  .evaluate (.throw h)

theorem change (f : Machine → Machine) : (change f).SparesLines :=
  fun _ _ _ h => nomatch h

theorem machine : machine.SparesLines :=
  fun _ _ _ h => nomatch h

theorem bind {x : Exec α} {f : α → Exec β} (hx : x.SparesLines) (hf : ∀ a, (f a).SparesLines) :
    (x >>= f).SparesLines := by
  intro s cause t h
  rcases bind_eq_error_iff.mp h with h | ⟨a, u, -, h⟩
  · exact hx h
  · exact hf a h

theorem ite {p : Prop} [Decidable p] {x y : Exec α} (hx : x.SparesLines) (hy : y.SparesLines) :
    (if p then x else y).SparesLines := by
  split
  · exact hx
  · exact hy

end SparesLines

end Exec

theorem ControlStack.top_error_missing? {Position α : Type} {stack : ControlStack Position}
    {select : Frame Position → Option α} {complaint : String} {cause : Cause}
    (h : stack.top select complaint = .error cause) : cause.missing? = none := by
  unfold top at h
  split at h
  · cases h
    rfl
  · split at h <;> cases h
    rfl

theorem ControlStack.pop_error_missing? {Position α : Type} {stack : ControlStack Position}
    {select : Frame Position → Option α} {complaint : String} {cause : Cause}
    (h : stack.pop select complaint = .error cause) : cause.missing? = none := by
  unfold pop at h
  cases ht : stack.top select complaint with
  | ok found => simp [ht, Except.map] at h
  | error cause' =>
    rw [ht] at h
    cases h
    exact top_error_missing? ht

namespace Statement

open Exec

variable {s t : Execution} {cause : Cause} {number : Int}

theorem assign_sparesLines : assign.SparesLines :=
  (SparesLines.evaluate Eval.name_sparesLines).bind fun _ =>
    (SparesLines.evaluate (Eval.demand_sparesLines _)).bind fun _ =>
      (SparesLines.evaluate Eval.expression_sparesLines).bind fun _ => .change _

theorem resume_sparesLines : resume.SparesLines :=
  SparesLines.machine.bind fun _ =>
    (SparesLines.ofExcept fun _ => ControlStack.pop_error_missing?).bind fun _ => .change _

theorem count_sparesLines : count.SparesLines := by
  rw [count_eq]
  exact (SparesLines.evaluate loopStart_sparesLines).bind fun _ => (SparesLines.change _).bind
    fun _ => (SparesLines.evaluate loopRange_sparesLines).bind fun _ => .change _

theorem next_sparesLines : next.SparesLines := by
  refine (SparesLines.evaluate Eval.name_sparesLines).bind fun name =>
    (SparesLines.evaluate (Eval.valueOf?_sparesLines name)).bind fun found => ?_
  cases found with
  | none => exact .throw rfl
  | some previous =>
    exact SparesLines.machine.bind fun _ =>
      (SparesLines.ofExcept fun _ => ControlStack.top_error_missing?).bind fun _ =>
        (SparesLines.change _).bind fun _ => .ite (.change _) (.change _)

theorem closeLoop_sparesLines : closeLoop.SparesLines :=
  (SparesLines.evaluate repeats_sparesLines).bind fun _ =>
    SparesLines.machine.bind fun _ =>
      (SparesLines.ofExcept fun _ => ControlStack.top_error_missing?).bind fun _ =>
        .ite (.change _) (.change _)

theorem print_sparesLines : print.SparesLines :=
  (SparesLines.evaluate printList_sparesLines).bind fun _ => .change _

theorem ask_sparesLines (prompt : Text) : (ask prompt).SparesLines :=
  fun _ _ _ h => nomatch h

theorem input_sparesLines : input.SparesLines := by
  refine (SparesLines.evaluate inputList_sparesLines).bind fun ⟨prompt, names⟩ =>
    SparesLines.bind (ask_sparesLines prompt) fun line =>
      (SparesLines.ofExcept fun cause h => ?_).bind fun _ => .change _
  obtain ⟨field, rfl⟩ := fieldValues_error h
  rfl

theorem reseed_sparesLines : reseed.SparesLines := by
  refine (SparesLines.evaluate (e := Eval.atEnd) (.scan _)).bind fun _ => .ite (.change _) ?_
  refine (SparesLines.evaluate Eval.sum_sparesLines).bind fun value => ?_
  split
  · exact .change _
  · exact .throw rfl

theorem target_error (h : target s = .error cause t) (missing : cause.missing? = some number) :
    number ∉ s.machine.address ∧ ∃ value, cause = .targetMissing value := by
  rcases bind_eq_error_iff.mp h with h | ⟨m, s₁, hm, h⟩
  · cases h
  cases hm
  rcases bind_eq_error_iff.mp h with h | ⟨_, s₂, hr, h⟩
  · cases (SparesLines.evaluate (Eval.require_sparesLines _ fun _ => rfl) h).symm.trans missing
  rcases bind_eq_error_iff.mp h with h | ⟨value, s₃, hn, h⟩
  · cases (SparesLines.evaluate (Eval.sumBelow_sparesLines 1) h).symm.trans missing
  rw [bind_of_ok machine_apply] at h
  have address : s₃.machine.address = s.machine.address := by
    obtain ⟨r, -, rfl⟩ := evaluate_eq_ok_iff.mp hr
    obtain ⟨r', -, rfl⟩ := evaluate_eq_ok_iff.mp hn
    rfl
  cases found : value.truncate?.bind fun line => s₃.machine.address.idxOf? line with
  | some position => simp [found] at h
  | none =>
    obtain ⟨rfl, -⟩ : Cause.targetMissing value = cause ∧ s₃ = t := by simpa [found] using h
    have truncated : value.truncate? = some number := missing
    rw [truncated, Option.bind_some, List.idxOf?_eq_none_iff, address] at found
    exact ⟨found, value, rfl⟩

theorem perform_error_missing? {k : Option Keyword} (hk : k ≠ some .condition)
    (h : perform k s = .error cause t) (missing : cause.missing? = some number) :
    number ∉ s.machine.address ∧ ∃ value, cause = .targetMissing value := by
  have spares (hs : (perform k).SparesLines) :
      number ∉ s.machine.address ∧ ∃ value, cause = .targetMissing value := by
    cases (hs h).symm.trans missing
  cases k with
  | none => cases h
  | some k =>
    cases k with
    | condition => exact absurd rfl hk
    | assign => exact spares assign_sparesLines
    | remark => exact spares (SparesLines.evaluate (e := Eval.skipLine) (.scan _))
    | jump =>
      rcases bind_eq_error_iff.mp h with h | ⟨position, s₁, -, h⟩
      · exact target_error h missing
      · cases h
    | call =>
      rcases bind_eq_error_iff.mp h with h | ⟨position, s₁, -, h⟩
      · exact target_error h missing
      · cases h
    | resume => exact spares resume_sparesLines
    | pause => exact spares (SparesLines.change _ : pause.SparesLines)
    | finish => exact spares (SparesLines.change _ : finish.SparesLines)
    | count => exact spares count_sparesLines
    | next => exact spares next_sparesLines
    | enter =>
      exact spares
        (SparesLines.change fun m => { m with stack := m.stack.push (.repetition m.position) } :)
    | close => exact spares closeLoop_sparesLines
    | print => exact spares print_sparesLines
    | input => exact spares input_sparesLines
    | reseed => exact spares reseed_sparesLines

/-- A line that complains that some line is missing has a jump to a target that is not in the
table. -/
theorem execute_error_missing? (h : execute s = .error cause t)
    (missing : cause.missing? = some number) :
    number ∉ s.machine.address ∧ ∃ value, cause = .targetMissing value := by
  rw [execute_eq] at h
  rcases bind_eq_error_iff.mp h with h | ⟨k, s₁, hk, h⟩
  · cases (SparesLines.evaluate select_sparesLines h).symm.trans missing
  · obtain ⟨r, hr, rfl⟩ := evaluate_eq_ok_iff.mp hk
    have other : k ≠ some .condition := by
      rintro rfl
      exact selectWithin_ne_condition hr rfl
    exact perform_error_missing? (s := s.moved r) other h missing

/-- No line fails for an integer that cannot be written. -/
theorem execute_error_kind (h : execute s = .error cause t) : cause.kind ≠ .conversion := by
  intro conversion
  cases cause with
  | lineMissing number =>
    obtain ⟨-, value, hv⟩ := execute_error_missing? h rfl
    cases hv
  | _ => cases conversion

end Statement

end NumberedBasic
