import NumberedBasic.Proofs.Evaluation.Room
import NumberedBasic.Proofs.Evaluation.Fold

/-! # Evaluations in any letter case

Evaluations at cursors that fold to the same one agree on their values and on what they draw, or
fail together for causes that fold to the same one. In both cases they stop at the same column.
-/

namespace NumberedBasic

namespace Folding

variable (F : Folding) {σ α β γ δ : Type}

/-- Two results are both values or both failures, and they go with related states. -/
inductive Results (P : σ → σ → Prop) (R : α → β → Prop) :
    EStateM.Result Cause σ α → EStateM.Result Cause σ β → Prop where
  | ok {a : α} {b : β} {s s' : σ} (value : R a b) (state : P s s') :
      Results P R (.ok a s) (.ok b s')
  | error {k k' : Cause} {s s' : σ} (cause : F.cause k = F.cause k') (state : P s s') :
      Results P R (.error k s) (.error k' s')

def Meets (P : σ → σ → Prop) (R : α → β → Prop) (x : EStateM Cause σ α) (y : EStateM Cause σ β) :
    Prop :=
  ∀ ⦃s s' : σ⦄, P s s' → F.Results P R (x s) (y s')

section Binds

variable {F} {P : σ → σ → Prop} {R : α → β → Prop} {S : γ → δ → Prop} {x : EStateM Cause σ α}
  {y : EStateM Cause σ β} {f : α → EStateM Cause σ γ} {g : β → EStateM Cause σ δ}

/-- What follows related results has to agree for the values and states that were found. -/
theorem Results.bind {s s' : σ} (h : F.Results P R (x s) (y s'))
    (hf : ∀ ⦃a b t t'⦄, x s = .ok a t → R a b → P t t' → F.Results P S (f a t) (g b t')) :
    F.Results P S ((x >>= f) s) ((y >>= g) s') := by
  change F.Results P S (EStateM.bind x f s) (EStateM.bind y g s')
  unfold EStateM.bind
  generalize x s = r at h hf ⊢
  generalize y s' = r' at h ⊢
  cases h with
  | ok value state => exact hf rfl value state
  | error cause state => exact .error cause state

theorem Meets.bind (hx : F.Meets P R x y) (hf : ∀ a b, R a b → F.Meets P S (f a) (g b)) :
    F.Meets P S (x >>= f) (y >>= g) :=
  fun _ _ hs => (hx hs).bind fun _ _ _ _ _ value state => hf _ _ value state

theorem Meets.bind_same {y : EStateM Cause σ α} {g : α → EStateM Cause σ δ}
    (hx : F.Meets P Eq x y) (hf : ∀ a, F.Meets P S (f a) (g a)) :
    F.Meets P S (x >>= f) (y >>= g) :=
  hx.bind fun a _ same => same ▸ hf a

theorem Meets.pure {a : α} {b : β} (h : R a b) : F.Meets P R (pure a) (pure b) :=
  fun _ _ hs => .ok h hs

theorem Meets.throw {k k' : Cause} (h : F.cause k = F.cause k') :
    F.Meets P R (throw k) (throw k') :=
  fun _ _ hs => .error h hs

theorem Meets.ite {p : Prop} [Decidable p] {u : EStateM Cause σ α} {v : EStateM Cause σ β}
    (hx : F.Meets P R x y) (hu : F.Meets P R u v) :
    F.Meets P R (if p then x else u) (if p then y else v) := by
  split
  · exact hx
  · exact hu

end Binds

/-- The readings are at the same column of lines that fold to the same one. -/
structure Readings (r r' : Reading) : Prop where
  cursor : F.cursor r.cursor = F.cursor r'.cursor
  generator : r.generator = r'.generator
  room : r.room = r'.room

end Folding

namespace Eval

variable {F : Folding} {α β γ δ : Type}

/-- The evaluations come to related results at readings that fold to the same one. -/
def Follows (F : Folding) (R : α → β → Prop) (e : Eval α) (e' : Eval β) : Prop :=
  ∀ context, F.Meets F.Readings R (e context) (e' context)

abbrev Uniform (F : Folding) (e : Eval α) : Prop :=
  Follows F Eq e e

namespace Follows

variable {R : α → β → Prop} {S : γ → δ → Prop} {e : Eval α} {e' : Eval β} {f : α → Eval γ}
  {f' : β → Eval δ}

theorem bind (he : Follows F R e e') (hf : ∀ a b, R a b → Follows F S (f a) (f' b)) :
    Follows F S (e >>= f) (e' >>= f') :=
  fun context => (he context).bind fun a b h => hf a b h context

theorem bind_same {e e' : Eval α} {f : α → Eval γ} {f' : α → Eval δ} (he : Follows F Eq e e')
    (hf : ∀ a, Follows F S (f a) (f' a)) : Follows F S (e >>= f) (e' >>= f') :=
  fun context => (he context).bind_same fun a => hf a context

theorem pure {a : α} {b : β} (h : R a b) : Follows F R (pure a) (pure b) :=
  fun _ => .pure h

theorem throw (k : Cause) : Follows F R (throw k) (throw k) :=
  fun _ => .throw rfl

theorem ite {p : Prop} [Decidable p] {d : Eval α} {d' : Eval β} (he : Follows F R e e')
    (hd : Follows F R d d') : Follows F R (if p then e else d) (if p then e' else d') := by
  split
  · exact he
  · exact hd

/-- What finds folded values on folded lines finds values there that fold to the same one. -/
theorem scan {fold : α → α} {matcher : Cursor → α × Cursor} (finds : F.Finds fold matcher) :
    Follows F (fold · = fold ·) (scan matcher) (scan matcher) := by
  rintro context ⟨c, g, room⟩ ⟨c', g', room'⟩ ⟨cursor, generator, rooms⟩
  have same := (finds c).symm.trans ((congrArg matcher cursor).trans (finds c'))
  exact .ok (congrArg Prod.fst same) ⟨congrArg Prod.snd same, generator, rooms⟩

theorem scan_bind {matcher : Cursor → α × Cursor} {f : α → Eval γ} {f' : α → Eval δ}
    (finds : F.Finds id matcher) (h : ∀ found, Follows F S (f found) (f' found)) :
    Follows F S (Eval.scan matcher >>= f) (Eval.scan matcher >>= f') := by
  have same : Follows F Eq (Eval.scan matcher) (Eval.scan matcher) := scan finds
  exact same.bind_same h

theorem scanStrictly {fold : α → α} {matcher : Cursor → Except Cause α × Cursor}
    (finds : F.Finds (F.outcome fold) matcher) :
    Follows F (fold · = fold ·) (scanStrictly matcher) (scanStrictly matcher) := by
  rintro context ⟨c, g, room⟩ ⟨c', g', room'⟩ ⟨cursor, generator, rooms⟩
  have same := (finds c).symm.trans ((congrArg matcher cursor).trans (finds c'))
  unfold Eval.scanStrictly
  dsimp only at same ⊢
  generalize matcher c = m at same ⊢
  generalize matcher c' = m' at same ⊢
  obtain ⟨found, d⟩ := m
  obtain ⟨found', d'⟩ := m'
  obtain ⟨value, place⟩ := Prod.mk.inj same
  cases found with
  | ok a =>
    cases found' with
    | ok b => exact .ok (Except.ok.inj value) ⟨place, generator, rooms⟩
    | error k => cases value
  | error k =>
    cases found' with
    | ok b => cases value
    | error k' => exact .error (Except.error.inj value) ⟨place, generator, rooms⟩

theorem failNear {cause : Text → Cause}
    (folds : ∀ rest, F.cause (cause rest) = F.cause (cause (F.text rest))) :
    Follows F R (failNear cause) (failNear cause) := by
  rintro context ⟨c, g, room⟩ ⟨c', g', room'⟩ ⟨cursor, generator, rooms⟩
  have rest : F.text c.rest = F.text c'.rest := congrArg Cursor.rest cursor
  refine .error ?_ ⟨cursor, generator, rooms⟩
  dsimp only
  rw [folds, rest, ← folds]

theorem remaining : Follows F Eq remaining remaining := by
  rintro context ⟨c, g, room⟩ ⟨c', g', room'⟩ ⟨cursor, generator, rooms⟩
  have rest : F.text c.rest = F.text c'.rest := congrArg Cursor.rest cursor
  refine .ok ?_ ⟨cursor, generator, rooms⟩
  dsimp only
  rw [← F.length_text, rest, F.length_text]

end Follows

section Steps

theorem uniform_require (found : Bool) {cause : Text → Cause}
    (folds : ∀ rest, F.cause (cause rest) = F.cause (cause (F.text rest))) :
    (require found cause).Uniform F :=
  .ite (.pure rfl) (.failNear folds)

theorem uniform_ofExcept (x : Except Cause α) : (ofExcept x).Uniform F := by
  cases x with
  | ok a => exact .pure rfl
  | error k => exact .throw k

theorem uniform_valueOf? (name : Text) : (valueOf? name).Uniform F :=
  fun _ _ _ h => .ok rfl h

theorem uniform_call (b : Builtin) (arguments : List Number) : (call b arguments).Uniform F := by
  rintro context ⟨c, g, room⟩ ⟨c', g', room'⟩ ⟨cursor, rfl, rooms⟩
  unfold call
  dsimp only
  split
  · exact .ok rfl ⟨cursor, rfl, rooms⟩
  · exact .error rfl ⟨cursor, rfl, rooms⟩

theorem uniform_name : name.Uniform F :=
  .scanStrictly F.finds_demandIdentifier

theorem uniform_demand {expected : Text} (h : Text.Caseless expected) :
    (demand expected).Uniform F :=
  .scanStrictly (F.finds_demand h)

end Steps

section Repetition

variable {separator : Text} (caseless : Text.Caseless separator) {item : Eval α}
  (uniform : item.Uniform F)

include caseless uniform

theorem uniform_further (count : Nat) : (further (literal separator) item count).Uniform F := by
  induction count with
  | zero => exact .pure rfl
  | succ count ih =>
    refine .scan_bind (F.finds_literal caseless) fun found => .ite ?_ (.pure rfl)
    exact uniform.bind_same fun _ => ih.bind_same fun _ => .pure rfl

theorem uniform_separatedBy : (separatedBy separator item).Uniform F :=
  uniform.bind_same fun _ => Follows.remaining.bind_same fun count =>
    (uniform_further caseless uniform count).bind_same fun _ => .pure rfl

end Repetition

section Chains

variable {operator : Cursor → Option Operator × Cursor} (finds : F.Finds id operator)
  {operand : Eval Number} (uniform : operand.Uniform F)

include finds uniform

theorem uniform_extend? (left : Number) : (extend? operator operand left).Uniform F := by
  refine .scan_bind finds fun found => ?_
  cases found with
  | none => exact .pure rfl
  | some o =>
    exact uniform.bind_same fun _ => (uniform_ofExcept _).bind_same fun _ => .pure rfl

theorem uniform_chainFrom (count : Nat) (left : Number) :
    (chainFrom operator operand count left).Uniform F := by
  induction count generalizing left with
  | zero => exact .pure rfl
  | succ count ih =>
    refine (uniform_extend? finds uniform left).bind_same fun value => ?_
    cases value with
    | none => exact .pure rfl
    | some value => exact ih value

theorem uniform_chain : (chain operator operand).Uniform F := by
  refine uniform.bind_same fun first => ?_
  refine (uniform_extend? finds uniform first).bind_same fun value => ?_
  cases value with
  | none => exact .pure rfl
  | some value =>
    exact Follows.remaining.bind_same fun count => uniform_chainFrom finds uniform count value

end Chains

section Levels

variable {nesting : Nesting}

theorem finds_additive : F.Finds id Cursor.additive :=
  F.finds_eitherSign (by decide +kernel) (by decide +kernel)

theorem finds_multiplicative : F.Finds id Cursor.multiplicative :=
  F.finds_eitherSign (by decide +kernel) (by decide +kernel)

theorem uniform_closeParenthesis : closeParenthesis.Uniform F :=
  .scan_bind (F.finds_literal (by decide +kernel)) fun found =>
    uniform_require found fun rest => by simp only [Folding.cause, F.text_text]

theorem uniform_sign : sign.Uniform F := by
  refine .scan_bind (F.finds_literal (by decide +kernel)) fun found => .ite (.pure rfl) ?_
  have skipped : (discard (literal ['+'])).Uniform F :=
    Follows.scan_bind (F.finds_literal (by decide +kernel)) fun _ => .pure rfl
  exact skipped.bind_same fun _ => .pure rfl

variable (uniform : nesting.All (Uniform F))

include uniform

theorem uniform_arguments : (arguments nesting).Uniform F := by
  refine .scan_bind (F.finds_literal (by decide +kernel)) fun opened => .ite ?_ (.pure rfl)
  refine .scan_bind (F.finds_literal (by decide +kernel)) fun closed => .ite (.pure rfl) ?_
  exact (uniform_separatedBy (by decide +kernel) uniform.argument).bind_same fun _ =>
    uniform_closeParenthesis.bind_same fun _ => .pure rfl

theorem uniform_named (negative : Bool) (name : Text) :
    (named nesting negative name).Uniform F := by
  unfold named
  split
  · exact .ite ((uniform_arguments uniform).bind_same fun values => uniform_call _ values)
      (.throw _)
  · refine (uniform_valueOf? name).bind_same fun value => ?_
    cases value with
    | none => exact .throw _
    | some value => exact .pure rfl

theorem uniform_factor : (factor nesting).Uniform F := by
  refine uniform_sign.bind_same fun negative => .scan_bind F.finds_number fun token => ?_
  cases token with
  | some token => exact .pure rfl
  | none =>
    refine .scan_bind F.finds_identifier fun name => ?_
    cases name with
    | some name => exact uniform_named uniform negative name
    | none =>
      refine .scan_bind (F.finds_literal (by decide +kernel)) fun opened => .ite ?_ ?_
      · exact uniform.group.bind_same fun _ => uniform_closeParenthesis.bind_same fun _ => .pure rfl
      · exact .failNear fun rest => by simp only [Folding.cause, F.text_text]

theorem uniform_arithmetic : (arithmetic nesting).Uniform F :=
  uniform_chain finds_additive (uniform_chain finds_multiplicative (uniform_factor uniform))

theorem uniform_comparison : (comparison nesting).Uniform F := by
  refine (uniform_arithmetic uniform).bind_same fun left =>
    .scan_bind F.finds_relation fun relation => ?_
  cases relation with
  | none => exact .pure rfl
  | some relation => exact (uniform_arithmetic uniform).bind_same fun _ => .pure rfl

theorem uniform_negation : (negation nesting).Uniform F :=
  .scan_bind (F.finds_keyword _) fun _ =>
    .ite ((uniform_comparison uniform).bind_same fun _ => .pure rfl) (uniform_comparison uniform)

theorem uniform_disjunction : (disjunction nesting).Uniform F :=
  uniform_chain (F.finds_logical _ _)
    (uniform_chain (F.finds_logical _ _) (uniform_negation uniform))

end Levels

theorem uniform_breakOff {operand : Eval Unit} (uniform : operand.Uniform F) :
    (breakOff operand).Uniform F := by
  have skipped : (discard (keyword ['n', 'o', 't'])).Uniform F :=
    Follows.scan_bind (F.finds_keyword _) fun _ => .pure rfl
  exact skipped.bind_same fun _ => uniform.bind_same fun _ => .throw _

theorem uniform_expressionWithin (room : Nat) : (expressionWithin room).Uniform F :=
  expressionWithin_induction (.throw _) (uniform_breakOff (.pure rfl))
    (fun _ uniform => uniform_breakOff ((uniform_factor uniform).bind_same fun _ => .pure rfl))
    (fun _ uniform => uniform_disjunction uniform) room

theorem uniform_byRoom {e : Nat → Eval α} (uniform : ∀ room, (e room).Uniform F) :
    (byRoom e).Uniform F := by
  intro context r r' same
  rw [byRoom_apply, byRoom_apply, ← same.room]
  exact uniform r.room context same

theorem uniform_descend : descend.Uniform F :=
  fun _ _ _ same => .ok rfl ⟨same.cursor, same.generator, congrArg (· - 2) same.room⟩

theorem uniform_expressionBelow (calls : Nat) : (expressionBelow calls).Uniform F :=
  uniform_byRoom fun _ => uniform_expressionWithin _

theorem uniform_expression : expression.Uniform F :=
  uniform_expressionBelow 0

theorem uniform_sumBelow (calls : Nat) : (sumBelow calls).Uniform F :=
  uniform_byRoom fun _ => uniform_arithmetic (nestingWithin_all uniform_expressionWithin _)

theorem uniform_sum : sum.Uniform F :=
  uniform_sumBelow 0

end Eval

end NumberedBasic
