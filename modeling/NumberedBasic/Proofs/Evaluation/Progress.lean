import NumberedBasic.Cursor.Progress
import NumberedBasic.Proofs.Statement.Selection

/-! # Progress of evaluations

An evaluation moves forward along the line and along the random numbers, whether
it ends with a value or with a failure. Nothing else can happen to its reading,
because matchers and draws are the only steps that it is made of.
-/

namespace NumberedBasic

namespace Generator

def drawn : Nat → Generator → Generator
  | 0, g => g
  | draws + 1, g => drawn draws g.draw.2

theorem drawn_drawn (m n : Nat) (g : Generator) : (g.drawn m).drawn n = g.drawn (m + n) := by
  induction m generalizing g with
  | zero => rw [Nat.zero_add]; rfl
  | succ m ih => rw [Nat.add_right_comm]; exact ih g.draw.2

end Generator

/-- The second reading lies further along the same line and the same random numbers, with no
more room. -/
structure Reading.Leads (r s : Reading) : Prop where
  cursor : r.cursor.Reaches s.cursor
  generator : ∃ draws, s.generator = r.generator.drawn draws
  room : s.room ≤ r.room

namespace Reading.Leads

theorem refl (r : Reading) : r.Leads r :=
  ⟨.refl _, ⟨0, rfl⟩, Nat.le_refl _⟩

theorem trans {r s t : Reading} (h : r.Leads s) (h' : s.Leads t) : r.Leads t := by
  obtain ⟨m, hm⟩ := h.generator
  obtain ⟨n, hn⟩ := h'.generator
  exact ⟨h.cursor.trans h'.cursor, ⟨m + n, by rw [hn, hm, Generator.drawn_drawn]⟩,
    Nat.le_trans h'.room h.room⟩

theorem of_reaches {r : Reading} {c : Cursor} (h : r.cursor.Reaches c) :
    r.Leads { r with cursor := c } :=
  ⟨h, ⟨0, rfl⟩, Nat.le_refl _⟩

end Reading.Leads

namespace Eval

variable {α β : Type}

def stop (e : Eval α) (context : Context) (r : Reading) : Reading :=
  match e context r with
  | .ok _ s => s
  | .error _ s => s

/-- The evaluation only moves forward. -/
def Advances (e : Eval α) : Prop :=
  ∀ (context : Context) (r : Reading), r.Leads (e.stop context r)

namespace Advances

variable {e : Eval α} {context : Context} {r s : Reading}

theorem of_ok (he : e.Advances) {a : α} (h : e context r = .ok a s) : r.Leads s := by
  simpa only [stop, h] using he context r

theorem of_error (he : e.Advances) {cause : Cause} (h : e context r = .error cause s) :
    r.Leads s := by
  simpa only [stop, h] using he context r

theorem pure (a : α) : (pure a : Eval α).Advances := fun _ r => .refl r

theorem throw (cause : Cause) : (throw cause : Eval α).Advances := fun _ r => .refl r

theorem bind {f : α → Eval β} (he : e.Advances) (hf : ∀ a, (f a).Advances) :
    (e >>= f).Advances := by
  intro context r
  cases h : e context r with
  | ok a s =>
    have hs : (e >>= f).stop context r = (f a).stop context s := by
      simp only [stop, bind_of_ok h]
    rw [hs]
    exact (he.of_ok h).trans (hf a context s)
  | error cause s =>
    have hs : (e >>= f).stop context r = s := by simp only [stop, bind_of_error h]
    rw [hs]
    exact he.of_error h

theorem ite {p : Prop} [Decidable p] {e' : Eval α} (he : e.Advances) (he' : e'.Advances) :
    (if p then e else e').Advances := by
  split
  · exact he
  · exact he'

end Advances

theorem scan_advances {matcher : Cursor → α × Cursor} (h : ∀ c : Cursor, c.Reaches (matcher c).2) :
    (scan matcher).Advances :=
  fun _ r => .of_reaches (h r.cursor)

theorem scanStrictly_advances {matcher : Cursor → Except Cause α × Cursor}
    (h : ∀ c : Cursor, c.Reaches (matcher c).2) : (scanStrictly matcher).Advances := by
  intro context r
  have hs : (scanStrictly matcher).stop context r = { r with cursor := (matcher r.cursor).2 } := by
    unfold stop scanStrictly
    cases hm : (matcher r.cursor).1 <;> grind
  rw [hs]
  exact .of_reaches (h r.cursor)

theorem failNear_advances (cause : Text → Cause) : (failNear cause : Eval α).Advances :=
  fun _ r => .refl r

theorem require_advances (found : Bool) (cause : Text → Cause) :
    (require found cause).Advances :=
  .ite (.pure ()) (failNear_advances cause)

theorem byRoom_advances {e : Nat → Eval α} (he : ∀ room, (e room).Advances) :
    (byRoom e).Advances :=
  fun context r => he r.room context r

theorem descend_advances : descend.Advances :=
  fun _ r => ⟨.refl _, ⟨0, rfl⟩, Nat.sub_le r.room 2⟩

theorem remaining_advances : remaining.Advances := fun _ r => .refl r

theorem valueOf?_advances (name : Text) : (valueOf? name).Advances := fun _ r => .refl r

theorem ofExcept_advances (x : Except Cause α) : (ofExcept x).Advances := by
  cases x with
  | ok a => exact .pure a
  | error cause => exact .throw cause

theorem call_advances (b : Builtin) (arguments : List Number) : (call b arguments).Advances := by
  intro context r
  have hd : ∃ draws, (b.call context.clock arguments r.generator).2 = r.generator.drawn draws := by
    unfold Builtin.call
    split
    · exact ⟨1, rfl⟩
    · exact ⟨0, rfl⟩
  have hs : (call b arguments).stop context r =
      { r with generator := (b.call context.clock arguments r.generator).2 } := by
    unfold stop call
    cases hb : (b.call context.clock arguments r.generator).1 <;> grind
  rw [hs]
  exact ⟨.refl _, hd, Nat.le_refl _⟩

theorem literal_advances (expected : Text) : (literal expected).Advances :=
  scan_advances fun c => c.literal_reaches expected

theorem keyword_advances (expected : Text) : (keyword expected).Advances :=
  scan_advances fun c => c.keyword_reaches expected

theorem skipBlanks_advances : skipBlanks.Advances :=
  scan_advances Cursor.skipBlanks_reaches

theorem skipLine_advances : skipLine.Advances :=
  scan_advances Cursor.finish_reaches

theorem atEnd_advances : atEnd.Advances :=
  scan_advances Cursor.skipBlanks_reaches

theorem demand_advances (expected : Text) : (demand expected).Advances :=
  scanStrictly_advances fun c => c.demand_reaches expected

theorem name_advances : name.Advances :=
  scanStrictly_advances Cursor.demandIdentifier_reaches

theorem string_advances : (scanStrictly Cursor.string).Advances :=
  scanStrictly_advances Cursor.string_reaches

section Repetition

variable {separator : Eval Bool} {item : Eval α}

theorem further_advances (hs : separator.Advances) (hi : item.Advances) (count : Nat) :
    (further separator item count).Advances := by
  induction count with
  | zero => exact .pure []
  | succ count ih =>
    exact hs.bind fun found =>
      .ite (hi.bind fun first => ih.bind fun rest => .pure (first :: rest)) (.pure [])

theorem separatedBy_advances (expected : Text) (hi : item.Advances) :
    (separatedBy expected item).Advances :=
  hi.bind fun first => remaining_advances.bind fun count =>
    (further_advances (literal_advances expected) hi count).bind fun rest => .pure (first :: rest)

end Repetition

section Chains

variable {operator : Cursor → Option Operator × Cursor} {operand : Eval Number}

theorem extend?_advances (ho : ∀ c : Cursor, c.Reaches (operator c).2) (he : operand.Advances)
    (left : Number) : (extend? operator operand left).Advances := by
  refine (scan_advances ho).bind fun found => ?_
  cases found with
  | none => exact .pure none
  | some o =>
    exact he.bind fun right => (ofExcept_advances _).bind fun value => .pure (some value)

theorem chainFrom_advances (ho : ∀ c : Cursor, c.Reaches (operator c).2) (he : operand.Advances)
    (count : Nat) (left : Number) : (chainFrom operator operand count left).Advances := by
  induction count generalizing left with
  | zero => exact .pure left
  | succ count ih =>
    refine (extend?_advances ho he left).bind fun value => ?_
    cases value with
    | none => exact .pure left
    | some value => exact ih value

theorem chain_advances (ho : ∀ c : Cursor, c.Reaches (operator c).2) (he : operand.Advances) :
    (chain operator operand).Advances := by
  refine he.bind fun first => (extend?_advances ho he first).bind fun value => ?_
  cases value with
  | none => exact .pure first
  | some value => exact remaining_advances.bind fun count => chainFrom_advances ho he count value

end Chains

section Levels

variable {nesting : Nesting}

theorem closeParenthesis_advances : closeParenthesis.Advances :=
  (literal_advances _).bind fun found => require_advances found _

theorem arguments_advances (h : nesting.argument.Advances) : (arguments nesting).Advances := by
  refine (literal_advances _).bind fun found => .ite ?_ (.pure [])
  refine (literal_advances _).bind fun closed => .ite (.pure []) ?_
  exact (separatedBy_advances _ h).bind fun values =>
    closeParenthesis_advances.bind fun _ => .pure values

theorem named_advances (h : nesting.argument.Advances) (negative : Bool) (name : Text) :
    (named nesting negative name).Advances := by
  unfold named
  split
  · exact .ite ((arguments_advances h).bind fun values => call_advances _ values) (.throw _)
  · refine (valueOf?_advances name).bind fun value => ?_
    cases value with
    | none => exact .throw _
    | some value => exact .pure _

theorem sign_advances : sign.Advances :=
  (literal_advances _).bind fun _ =>
    .ite (.pure true)
      (((literal_advances _).bind fun _ => .pure _).bind fun _ => .pure false)

theorem factor_advances (h : nesting.All Advances) : (factor nesting).Advances := by
  refine sign_advances.bind fun negative =>
    (scan_advances Cursor.number_reaches).bind fun token => ?_
  cases token with
  | some token => exact .pure _
  | none =>
    refine (scan_advances Cursor.identifier_reaches).bind fun name => ?_
    cases name with
    | some name => exact named_advances h.argument negative name
    | none =>
      refine (literal_advances _).bind fun found => .ite ?_ (failNear_advances _)
      exact h.group.bind fun value => closeParenthesis_advances.bind fun _ => .pure _

theorem term_advances (h : nesting.All Advances) : (term nesting).Advances :=
  chain_advances (fun c => c.eitherSign_reaches _ _) (factor_advances h)

theorem arithmetic_advances (h : nesting.All Advances) : (arithmetic nesting).Advances :=
  chain_advances (fun c => c.eitherSign_reaches _ _) (term_advances h)

theorem comparison_advances (h : nesting.All Advances) : (comparison nesting).Advances := by
  refine (arithmetic_advances h).bind fun left =>
    (scan_advances Cursor.relation_reaches).bind fun relation => ?_
  cases relation with
  | none => exact .pure left
  | some relation => exact (arithmetic_advances h).bind fun right => .pure _

theorem negation_advances (h : nesting.All Advances) : (negation nesting).Advances :=
  (keyword_advances _).bind fun _ =>
    .ite ((comparison_advances h).bind fun _ => .pure _) (comparison_advances h)

theorem conjunction_advances (h : nesting.All Advances) : (conjunction nesting).Advances :=
  chain_advances (fun c => c.logical_reaches _ _) (negation_advances h)

theorem disjunction_advances (h : nesting.All Advances) : (disjunction nesting).Advances :=
  chain_advances (fun c => c.logical_reaches _ _) (conjunction_advances h)

end Levels

theorem breakOff_advances {operand : Eval Unit} (h : operand.Advances) :
    (breakOff operand).Advances :=
  ((keyword_advances _).bind fun _ => .pure _).bind fun _ => h.bind fun _ => .throw _

theorem expressionWithin_advances (room : Nat) : (expressionWithin room).Advances :=
  expressionWithin_induction (.throw _) (breakOff_advances (.pure ()))
    (fun _ h => breakOff_advances ((factor_advances h).bind fun _ => .pure _))
    (fun _ h => disjunction_advances h) room

theorem nestingWithin_advances (room : Nat) : (nestingWithin room).All Advances :=
  nestingWithin_all expressionWithin_advances room

theorem expressionBelow_advances (calls : Nat) : (expressionBelow calls).Advances :=
  byRoom_advances fun _ => expressionWithin_advances _

theorem expression_advances : expression.Advances :=
  expressionBelow_advances 0

theorem sumBelow_advances (calls : Nat) : (sumBelow calls).Advances :=
  byRoom_advances fun _ => arithmetic_advances (nestingWithin_advances _)

theorem sum_advances : sum.Advances :=
  sumBelow_advances 0

end Eval

namespace Statement

open Eval

theorem keyword_advances : keyword.Advances := by
  refine skipBlanks_advances.bind fun _ => (scan_advances Cursor.word_reaches).bind fun word => ?_
  cases word with
  | none => exact failNear_advances _
  | some word =>
    dsimp only
    split
    · exact .pure _
    · exact .throw _

theorem holds_advances : holds.Advances :=
  expression_advances.bind fun _ => (Eval.keyword_advances _).bind fun found =>
    (require_advances found _).bind fun _ => descend_advances.bind fun _ => .pure _

theorem selectWithin_advances (depth : Nat) : (selectWithin depth).Advances := by
  induction depth with
  | zero => exact .throw _
  | succ depth ih =>
    refine keyword_advances.bind fun k => ?_
    split
    · exact holds_advances.bind fun _ => .ite ih (skipLine_advances.bind fun _ => .pure none)
    · exact .pure _

theorem select_advances : select.Advances :=
  byRoom_advances fun _ => selectWithin_advances _

theorem loopStep_advances : loopStep.Advances := by
  refine (Eval.keyword_advances _).bind fun found => .ite ?_ (.pure 1)
  exact sum_advances.bind fun step => .ite (.throw _) (.pure step)

theorem repeats_advances : repeats.Advances := by
  refine (Eval.keyword_advances _).bind fun _ => .ite ?_ ?_
  · exact expression_advances.bind fun _ => .pure _
  · refine (Eval.keyword_advances _).bind fun _ => .ite ?_ (failNear_advances _)
    exact expression_advances.bind fun _ => .pure _

theorem printable_advances : printable.Advances := by
  refine string_advances.bind fun content => ?_
  cases content with
  | some content => exact .pure _
  | none => exact (expressionBelow_advances 1).bind fun _ => .pure _

theorem printFurther_advances (items : Nat) (text : String) (isOpen : Bool) :
    (printFurther items text isOpen).Advances := by
  induction items generalizing text isOpen with
  | zero => exact .pure _
  | succ items ih =>
    refine (scan_advances fun c => c.anyOf_reaches _).bind fun separator => ?_
    cases separator with
    | none => exact .pure _
    | some separator =>
      refine .ite ?_ (printable_advances.bind fun _ => ih _ _)
      exact atEnd_advances.bind fun _ =>
        .ite (.pure _) (printable_advances.bind fun _ => ih _ _)

theorem printList_advances : printList.Advances :=
  atEnd_advances.bind fun _ => .ite (.pure _) <| printable_advances.bind fun first =>
    remaining_advances.bind fun items =>
      (printFurther_advances items first false).bind fun ⟨_, _⟩ => .pure _

theorem inputList_advances : inputList.Advances := by
  have hn : (separatedBy [','] Eval.name).Advances := separatedBy_advances _ name_advances
  refine string_advances.bind fun prompt => ?_
  cases prompt with
  | none => exact hn.bind fun _ => .pure _
  | some prompt =>
    exact (literal_advances _).bind fun found => (require_advances found _).bind fun _ =>
      hn.bind fun _ => .pure _

end Statement

namespace Execution

/-- The execution has only evaluated something between the two points. -/
def Evaluates (s t : Execution) : Prop :=
  ∃ r, s.reading.Leads r ∧ t = s.moved r

namespace Evaluates

theorem refl (s : Execution) : s.Evaluates s :=
  ⟨s.reading, .refl _, rfl⟩

theorem trans {s t u : Execution} (h : s.Evaluates t) (h' : t.Evaluates u) : s.Evaluates u := by
  obtain ⟨r, hr, rfl⟩ := h
  obtain ⟨r', hr', rfl⟩ := h'
  exact ⟨r', hr.trans hr', rfl⟩

theorem exists_drawn {s t : Execution} (h : s.Evaluates t) :
    ∃ draws, t.machine = { s.machine with generator := s.machine.generator.drawn draws } := by
  obtain ⟨r, hr, rfl⟩ := h
  obtain ⟨draws, hd⟩ := hr.generator
  exact ⟨draws, by rw [moved, hd]; rfl⟩

theorem of_ok {α : Type} {e : Eval α} (he : e.Advances) {s t : Execution} {a : α}
    (h : Exec.evaluate e s = .ok a t) : s.Evaluates t := by
  obtain ⟨r, hr, rfl⟩ := Exec.evaluate_eq_ok_iff.mp h
  exact ⟨r, he.of_ok hr, rfl⟩

theorem of_error {α : Type} {e : Eval α} (he : e.Advances) {s t : Execution} {cause : Cause}
    (h : Exec.evaluate e s = .error cause t) : s.Evaluates t := by
  obtain ⟨r, hr, rfl⟩ := Exec.evaluate_eq_error_iff.mp h
  exact ⟨r, he.of_error hr, rfl⟩

theorem bind_ok {α β : Type} {e : Eval α} (he : e.Advances) {f : α → Exec β} {s u : Execution}
    {b : β} (h : (Exec.evaluate e >>= f) s = .ok b u) :
    ∃ a t, Exec.evaluate e s = .ok a t ∧ s.Evaluates t ∧ f a t = .ok b u := by
  obtain ⟨a, t, ha, hf⟩ := Exec.bind_eq_ok_iff.mp h
  exact ⟨a, t, ha, of_ok he ha, hf⟩

end Evaluates

end Execution

end NumberedBasic
