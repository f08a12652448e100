import NumberedBasic.Proofs.Evaluation.Seed
import NumberedBasic.Proofs.Grammar.Covers

/-! # Draws of evaluations

An evaluation draws random numbers only for calls of the function that draws them, and each call is
made by the function's name. So the numbers change only where the evaluation has passed this name.
-/

namespace NumberedBasic

open Text

namespace Reading

/-- Between the readings random numbers were drawn, if at all, for a name of their function. -/
def Accounts (r s : Reading) : Prop :=
  ∃ piece draws, r.cursor.Passes piece s.cursor ∧ s.generator = r.generator.drawn draws ∧
    (draws = 0 ∨ piece.Contains Builtin.rnd.name)

namespace Accounts

variable {r s t : Reading}

theorem of_still (reaches : r.cursor.Reaches s.cursor) (still : s.generator = r.generator) :
    r.Accounts s := by
  obtain ⟨piece, passes⟩ := reaches
  exact ⟨piece, 0, passes, still, .inl rfl⟩

theorem refl (r : Reading) : r.Accounts r :=
  of_still (.refl _) rfl

theorem trans (h : r.Accounts s) (h' : s.Accounts t) : r.Accounts t := by
  obtain ⟨piece, draws, passes, drawn, named⟩ := h
  obtain ⟨piece', draws', passes', drawn', named'⟩ := h'
  refine ⟨piece ++ piece', draws + draws', passes.trans passes', ?_, ?_⟩
  · rw [drawn', drawn, Generator.drawn_drawn]
  · rcases named with rfl | named
    · rcases named' with rfl | named'
      · exact .inl rfl
      · exact .inr (named'.of_isInfix (List.suffix_append _ _).isInfix)
    · exact .inr (named.of_isInfix (List.prefix_append _ _).isInfix)

theorem of_named {piece : Text} (passes : r.cursor.Passes piece s.cursor)
    (still : s.generator = r.generator) (named : piece.Contains Builtin.rnd.name)
    (leads : s.Leads t) : r.Accounts t := by
  obtain ⟨⟨piece', passes'⟩, ⟨draws, drawn⟩, -⟩ := leads
  exact ⟨piece ++ piece', draws, passes.trans passes', by rw [drawn, still],
    .inr (named.of_isInfix (List.prefix_append _ _).isInfix)⟩

end Accounts

end Reading

namespace Eval

variable {α β : Type}

def Accountable (e : Eval α) : Prop :=
  ∀ (context : Context) (r : Reading), r.Accounts (e.stop context r)

namespace Accountable

variable {e : Eval α} {context : Context} {r s : Reading}

theorem of_ok (he : e.Accountable) {a : α} (h : e context r = .ok a s) : r.Accounts s := by
  simpa only [stop, h] using he context r

theorem of_error (he : e.Accountable) {cause : Cause} (h : e context r = .error cause s) :
    r.Accounts s := by
  simpa only [stop, h] using he context r

theorem of_still (advances : e.Advances)
    (still : ∀ context r, (e.stop context r).generator = r.generator) : e.Accountable :=
  fun context r => .of_still (advances context r).cursor (still context r)

theorem pure (a : α) : (pure a : Eval α).Accountable := fun _ r => .refl r

theorem throw (cause : Cause) : (throw cause : Eval α).Accountable := fun _ r => .refl r

/-- What follows a value has to be accounted for from where it was found. -/
theorem bind_found {f : α → Eval β} (he : e.Accountable)
    (hf : ∀ a s, e context r = .ok a s → r.Accounts ((f a).stop context s)) :
    r.Accounts ((e >>= f).stop context r) := by
  cases h : e context r with
  | ok a s =>
    have hs : (e >>= f).stop context r = (f a).stop context s := by
      simp only [stop, bind_of_ok h]
    rw [hs]
    exact hf a s h
  | error cause s =>
    have hs : (e >>= f).stop context r = s := by simp only [stop, bind_of_error h]
    rw [hs]
    exact he.of_error h

theorem bind {f : α → Eval β} (he : e.Accountable) (hf : ∀ a, (f a).Accountable) :
    (e >>= f).Accountable :=
  fun context _ => he.bind_found fun a s h => (he.of_ok h).trans (hf a context s)

theorem ite {p : Prop} [Decidable p] {e' : Eval α} (he : e.Accountable) (he' : e'.Accountable) :
    (if p then e else e').Accountable := by
  split
  · exact he
  · exact he'

theorem scan {matcher : Cursor → α × Cursor} (h : ∀ c : Cursor, c.Reaches (matcher c).2) :
    (scan matcher).Accountable :=
  of_still (scan_advances h) fun _ _ => rfl

end Accountable

theorem failNear_accountable (cause : Text → Cause) : (failNear cause : Eval α).Accountable :=
  fun _ r => .refl r

theorem require_accountable (found : Bool) (cause : Text → Cause) :
    (require found cause).Accountable :=
  .ite (.pure ()) (failNear_accountable cause)

theorem remaining_accountable : remaining.Accountable := fun _ r => .refl r

theorem valueOf?_accountable (name : Text) : (valueOf? name).Accountable := fun _ r => .refl r

theorem ofExcept_accountable (x : Except Cause α) : (ofExcept x).Accountable := by
  cases x with
  | ok a => exact .pure a
  | error cause => exact .throw cause

theorem literal_accountable (expected : Text) : (literal expected).Accountable :=
  .scan fun c => c.literal_reaches expected

theorem call_accountable {b : Builtin} (h : b ≠ .rnd) (arguments : List Number) :
    (call b arguments).Accountable := by
  refine .of_still (call_advances b arguments) fun context r => ?_
  unfold stop call
  rw [Builtin.call_of_ne_rnd h]
  cases b.value context.clock arguments <;> rfl

section Chains

variable {operator : Cursor → Option Operator × Cursor} {operand : Eval Number}
  (reaches : ∀ c : Cursor, c.Reaches (operator c).2) (accountable : operand.Accountable)

include reaches accountable

theorem extend?_accountable (left : Number) : (extend? operator operand left).Accountable := by
  refine (Accountable.scan reaches).bind fun found => ?_
  cases found with
  | none => exact .pure none
  | some o =>
    exact accountable.bind fun right =>
      (ofExcept_accountable _).bind fun value => .pure (some value)

theorem chainFrom_accountable (count : Nat) (left : Number) :
    (chainFrom operator operand count left).Accountable := by
  induction count generalizing left with
  | zero => exact .pure left
  | succ count ih =>
    refine (extend?_accountable reaches accountable left).bind fun value => ?_
    cases value with
    | none => exact .pure left
    | some value => exact ih value

theorem chain_accountable : (chain operator operand).Accountable := by
  refine accountable.bind fun first =>
    (extend?_accountable reaches accountable first).bind fun value => ?_
  cases value with
  | none => exact .pure first
  | some value =>
    exact remaining_accountable.bind fun count =>
      chainFrom_accountable reaches accountable count value

end Chains

section Levels

variable {nested : Eval Number}

theorem closeParenthesis_accountable : closeParenthesis.Accountable :=
  (literal_accountable _).bind fun found => require_accountable found _

theorem sign_accountable : sign.Accountable :=
  (literal_accountable _).bind fun _ =>
    .ite (.pure true)
      (((literal_accountable _).bind fun _ => .pure _).bind fun _ => .pure false)

theorem further_accountable (accountable : nested.Accountable) (expected : Text) (count : Nat) :
    (further (literal expected) nested count).Accountable := by
  induction count with
  | zero => exact .pure []
  | succ count ih =>
    exact (literal_accountable expected).bind fun found =>
      .ite (accountable.bind fun first => ih.bind fun rest => .pure (first :: rest)) (.pure [])

variable {nesting : Nesting} (advances : nesting.All Advances)
  (accountable : nesting.All Accountable)

theorem arguments_accountable (accountable : nesting.argument.Accountable) :
    (arguments nesting).Accountable := by
  refine (literal_accountable _).bind fun found => .ite ?_ (.pure [])
  refine (literal_accountable _).bind fun closed => .ite (.pure []) ?_
  have values : (separatedBy [','] nesting.argument).Accountable :=
    accountable.bind fun first => remaining_accountable.bind fun count =>
      (further_accountable accountable _ count).bind fun rest => .pure (first :: rest)
  exact values.bind fun values => closeParenthesis_accountable.bind fun _ => .pure values

theorem named_accountable (accountable : nesting.argument.Accountable) {name : Text}
    (other : name ≠ Builtin.rnd.name) (negative : Bool) :
    (named nesting negative name).Accountable := by
  unfold named
  split
  · rename_i b hb
    have drawless : b ≠ .rnd := fun same =>
      other ((Builtin.name_of_ofName? hb).symm.trans (congrArg Builtin.name same))
    exact .ite ((arguments_accountable accountable).bind fun values =>
      call_accountable drawless values) (.throw _)
  · refine (valueOf?_accountable name).bind fun value => ?_
    cases value with
    | none => exact .throw _
    | some value => exact .pure _

include advances accountable

theorem factor_accountable : (factor nesting).Accountable := by
  refine sign_accountable.bind fun negative =>
    (Accountable.scan Cursor.number_reaches).bind fun token => ?_
  cases token with
  | some token => exact .pure _
  | none =>
    intro context r
    refine (Accountable.scan Cursor.identifier_reaches).bind_found fun name s found => ?_
    have accounts := (Accountable.scan Cursor.identifier_reaches).of_ok found
    cases name with
    | some name =>
      by_cases same : name = Builtin.rnd.name
      · obtain ⟨read, still⟩ := scan_eq_ok_iff.mp found
        obtain ⟨text, -, spelled, blanks, -, passes⟩ := Cursor.identifier_finds read
        have called : (blanks ++ text).Contains Builtin.rnd.name :=
          ⟨text, (List.suffix_append _ _).isInfix, spelled.trans same⟩
        exact .of_named passes still.generator called
          (named_advances advances.argument negative name context s)
      · exact accounts.trans (named_accountable accountable.argument same negative context s)
    | none =>
      refine accounts.trans (Accountable.bind (literal_accountable _) (fun _ => .ite ?_
        (failNear_accountable _)) context s)
      exact accountable.group.bind fun value => closeParenthesis_accountable.bind fun _ => .pure _

theorem read_accountable (p : Phrase) : (p.read nesting).Accountable := by
  have factor := factor_accountable advances accountable
  have arithmetic : (arithmetic nesting).Accountable :=
    chain_accountable (fun c => c.eitherSign_reaches _ _)
      (chain_accountable (fun c => c.eitherSign_reaches _ _) factor)
  have comparison : (comparison nesting).Accountable := by
    refine arithmetic.bind fun left =>
      (Accountable.scan Cursor.relation_reaches).bind fun relation => ?_
    cases relation with
    | none => exact .pure left
    | some relation => exact arithmetic.bind fun right => .pure _
  have negation : (negation nesting).Accountable :=
    (Accountable.scan fun c => c.keyword_reaches _).bind fun _ =>
      .ite (comparison.bind fun _ => .pure _) comparison
  have conjunction : (conjunction nesting).Accountable :=
    chain_accountable (fun c => c.logical_reaches _ _) negation
  cases p with
  | chain r =>
    cases r with
    | disjunction => exact chain_accountable (fun c => c.logical_reaches _ _) conjunction
    | conjunction => exact conjunction
    | arithmetic => exact arithmetic
    | term => exact chain_accountable (fun c => c.eitherSign_reaches _ _) factor
  | negation => exact negation
  | comparison => exact comparison
  | factor => exact factor

end Levels

theorem breakOff_accountable {operand : Eval Unit} (accountable : operand.Accountable) :
    (breakOff operand).Accountable :=
  ((Accountable.scan fun c => c.keyword_reaches _).bind fun _ => .pure _).bind fun _ =>
    accountable.bind fun _ => .throw _

theorem expressionWithin_accountable (room : Nat) : (expressionWithin room).Accountable := by
  let Inner (e : Eval Number) : Prop := e.Advances ∧ e.Accountable
  have inner : Inner (expressionWithin room) := by
    refine expressionWithin_induction ⟨.throw _, .throw _⟩
      ⟨breakOff_advances (.pure _), breakOff_accountable (.pure _)⟩ (fun nesting all => ?_)
      (fun nesting all => ?_) room
    all_goals
      have advances : nesting.All Advances := ⟨all.group.1, all.argument.1⟩
      have accountable : nesting.All Accountable := ⟨all.group.2, all.argument.2⟩
    · exact ⟨breakOff_advances ((factor_advances advances).bind fun _ => .pure _),
        breakOff_accountable ((factor_accountable advances accountable).bind fun _ => .pure _)⟩
    · exact ⟨disjunction_advances advances,
        read_accountable advances accountable (.chain .disjunction)⟩
  exact inner.2

theorem byRoom_accountable {e : Nat → Eval α} (accountable : ∀ room, (e room).Accountable) :
    (byRoom e).Accountable :=
  fun context r => accountable r.room context r

theorem descend_accountable : descend.Accountable :=
  fun _ _ => .of_still (.refl _) rfl

end Eval

end NumberedBasic
