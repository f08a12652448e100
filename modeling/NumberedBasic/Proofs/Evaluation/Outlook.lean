import NumberedBasic.Proofs.Evaluation.Blanks

/-! # Evaluations at another time, with other random numbers or more room

Only a few functions show an evaluation the time or the random numbers. Where none of their names
can be found ahead, a line is evaluated alike whatever these are: all levels do the same, they move
along the line in the same way, and they come to the same value or failure. With more room this is
so as well, unless the evaluation with less room fails for lack of it.
-/

namespace NumberedBasic

/-- How far two evaluations of a line may differ in the time and the random numbers, and the
functions that may show it. All others give the same at both and keep the difference within. -/
structure Outlook where
  alike : Nat → Nat → Generator → Generator → Prop
  hidden : Builtin → Prop
  /-- whether the second evaluation may have more room than the first one -/
  roomier : Prop
  same : ∀ ⦃clock clock' : Nat⦄ ⦃g g' : Generator⦄, alike clock clock' g g' →
    ∀ seeded, alike clock clock' seeded seeded
  call : ∀ ⦃b : Builtin⦄, ¬hidden b → ∀ ⦃clock clock' : Nat⦄ ⦃g g' : Generator⦄,
    alike clock clock' g g' → ∀ arguments,
      (b.call clock arguments g).1 = (b.call clock' arguments g').1 ∧
        alike clock clock' (b.call clock arguments g).2 (b.call clock' arguments g').2

namespace Outlook

def exact (roomier : Prop) : Outlook where
  alike clock clock' g g' := clock = clock' ∧ g = g'
  hidden _ := False
  roomier := roomier
  same _ _ _ _ h _ := ⟨h.1, rfl⟩
  call b _ clock clock' g g' same arguments := by
    obtain ⟨rfl, rfl⟩ := same
    exact ⟨rfl, rfl, rfl⟩

variable (o : Outlook)

def Clear (c : Cursor) : Prop :=
  ∀ d, c.Reaches d → ∀ b, o.hidden b → d.identifier.1 ≠ some b.name

def Rooms (room room' : Nat) : Prop :=
  room = room' ∨ o.roomier ∧ room ≤ room'

variable {o}

theorem Clear.of_reaches {c d : Cursor} (h : o.Clear c) (hr : c.Reaches d) : o.Clear d :=
  fun e he => h e (hr.trans he)

theorem clear_exact (roomier : Prop) (c : Cursor) : (exact roomier).Clear c :=
  fun _ _ _ hidden => hidden.elim

theorem Rooms.map {room room' : Nat} (h : o.Rooms room room') {f : Nat → Nat}
    (monotone : ∀ room room', room ≤ room' → f room ≤ f room') : o.Rooms (f room) (f room') :=
  h.imp (congrArg f) (And.imp_right (monotone room room'))

variable (o)

/-- Both results are the same value or failure at the same place, or there is too little room for
the first one. -/
inductive Results {α : Type} (clock clock' : Nat) : EStateM.Result Cause Reading α →
    EStateM.Result Cause Reading α → Prop where
  | ok (a : α) (c : Cursor) {g g' : Generator} {room room' : Nat}
      (alike : o.alike clock clock' g g') (rooms : o.Rooms room room') :
      Results clock clock' (.ok a ⟨c, g, room⟩) (.ok a ⟨c, g', room'⟩)
  | error (cause : Cause) (c : Cursor) {g g' : Generator} {room room' : Nat}
      (alike : o.alike clock clock' g g') (rooms : o.Rooms room room') :
      Results clock clock' (.error cause ⟨c, g, room⟩) (.error cause ⟨c, g', room'⟩)
  | tooComplex (roomier : o.roomier) (r : Reading) (result : EStateM.Result Cause Reading α) :
      Results clock clock' (.error .tooComplex r) result

end Outlook

namespace Eval

variable {α β : Type} {o : Outlook}

/-- Where no hidden function is ahead, the evaluations come to the same result. -/
def Matches (o : Outlook) (e e' : Eval α) : Prop :=
  ∀ ⦃v : Variables⦄ ⦃clock clock' : Nat⦄ ⦃c : Cursor⦄ ⦃g g' : Generator⦄ ⦃room room' : Nat⦄,
    o.Clear c → o.alike clock clock' g g' → o.Rooms room room' →
      o.Results clock clock' (e ⟨v, clock⟩ ⟨c, g, room⟩) (e' ⟨v, clock'⟩ ⟨c, g', room'⟩)

abbrev Heedless (o : Outlook) (e : Eval α) : Prop :=
  Matches o e e

namespace Matches

variable {e e' : Eval α} {f f' : α → Eval β}

theorem pure (a : α) : (pure a : Eval α).Heedless o :=
  fun _ _ _ c _ _ _ _ _ alike rooms => .ok a c alike rooms

theorem throw (cause : Cause) : (throw cause : Eval α).Heedless o :=
  fun _ _ _ c _ _ _ _ _ alike rooms => .error cause c alike rooms

theorem tooComplex (roomier : o.roomier) : Matches o (MonadExcept.throw .tooComplex) e' :=
  fun _ _ _ _ _ _ _ _ _ _ _ => .tooComplex roomier _ _

theorem scan (matcher : Cursor → α × Cursor) : (scan matcher).Heedless o :=
  fun _ _ _ _ _ _ _ _ _ alike rooms => .ok _ _ alike rooms

theorem scanStrictly (matcher : Cursor → Except Cause α × Cursor) :
    (scanStrictly matcher).Heedless o := by
  intro _ _ _ c _ _ _ _ _ alike rooms
  unfold Eval.scanStrictly
  dsimp only
  split
  · exact .ok _ _ alike rooms
  · exact .error _ _ alike rooms

/-- What follows a value has to match only for the values that are found. -/
theorem bind_found (he : Matches o e e') (advances : e.Advances)
    (hf : ∀ ⦃context r a s⦄, o.Clear r.cursor → e context r = .ok a s → Matches o (f a) (f' a)) :
    Matches o (e >>= f) (e' >>= f') := by
  intro v clock clock' c g g' room room' clear alike rooms
  have results : o.Results clock clock' (e ⟨v, clock⟩ ⟨c, g, room⟩)
      (e' ⟨v, clock'⟩ ⟨c, g', room'⟩) :=
    he clear alike rooms
  generalize h : e ⟨v, clock⟩ ⟨c, g, room⟩ = result at results
  generalize h' : e' ⟨v, clock'⟩ ⟨c, g', room'⟩ = result' at results
  cases results with
  | ok a d alike rooms =>
    have reached : c.Reaches d := (advances.of_ok h).cursor
    rw [bind_of_ok h, bind_of_ok h']
    exact hf (r := ⟨c, g, room⟩) clear h (clear.of_reaches reached) alike rooms
  | error cause d alike rooms =>
    rw [bind_of_error h, bind_of_error h']
    exact .error cause d alike rooms
  | tooComplex roomier r =>
    rw [bind_of_error h]
    exact .tooComplex roomier r _

theorem bind (he : Matches o e e') (advances : e.Advances) (hf : ∀ a, Matches o (f a) (f' a)) :
    Matches o (e >>= f) (e' >>= f') :=
  he.bind_found advances fun _ _ a _ _ _ => hf a

theorem ite {p : Prop} [Decidable p] {d d' : Eval α} (h : Matches o e e') (h' : Matches o d d') :
    Matches o (if p then e else d) (if p then e' else d') := by
  split
  · exact h
  · exact h'

theorem byRoom {e e' : Nat → Eval α}
    (h : ∀ ⦃room room'⦄, o.Rooms room room' → Matches o (e room) (e' room')) :
    Matches o (byRoom e) (byRoom e') :=
  fun _ _ _ _ _ _ _ _ clear alike rooms => h rooms clear alike rooms

end Matches

section Steps

theorem failNear_heedless (cause : Text → Cause) : (failNear cause : Eval α).Heedless o :=
  fun _ _ _ c _ _ _ _ _ alike rooms => .error _ c alike rooms

theorem require_heedless (found : Bool) (cause : Text → Cause) :
    (require found cause).Heedless o :=
  .ite (.pure ()) (failNear_heedless cause)

theorem remaining_heedless : remaining.Heedless o :=
  fun _ _ _ c _ _ _ _ _ alike rooms => .ok _ c alike rooms

theorem descend_heedless : descend.Heedless o :=
  fun _ _ _ c _ _ _ _ _ alike rooms =>
    .ok () c alike (rooms.map fun _ _ le => Nat.sub_le_sub_right le 2)

theorem valueOf?_heedless (name : Text) : (valueOf? name).Heedless o :=
  fun _ _ _ c _ _ _ _ _ alike rooms => .ok _ c alike rooms

theorem ofExcept_heedless (x : Except Cause α) : (ofExcept x).Heedless o := by
  cases x with
  | ok a => exact .pure a
  | error cause => exact .throw cause

theorem call_heedless {b : Builtin} (h : ¬o.hidden b) (arguments : List Number) :
    (call b arguments).Heedless o := by
  intro v clock clock' c g g' room room' _ alike rooms
  obtain ⟨value, further⟩ := o.call h alike arguments
  unfold call
  dsimp only
  generalize b.call clock arguments g = drawn at value further ⊢
  generalize b.call clock' arguments g' = drawn' at value further ⊢
  obtain ⟨x, g⟩ := drawn
  obtain ⟨_, g'⟩ := drawn'
  cases value
  cases x with
  | ok a => exact .ok a c further rooms
  | error cause => exact .error cause c further rooms

end Steps

section Repetition

variable {item item' : Eval α} (advances : item.Advances) (both : Matches o item item')

include advances both

theorem further_matches (expected : Text) (count : Nat) :
    Matches o (further (literal expected) item count) (further (literal expected) item' count) := by
  induction count with
  | zero => exact .pure []
  | succ count ih =>
    refine Matches.bind (.scan _) (literal_advances expected) fun found => .ite ?_ (.pure [])
    exact both.bind advances fun first =>
      ih.bind (further_advances (literal_advances expected) advances count) fun _ => .pure _

theorem separatedBy_matches (expected : Text) :
    Matches o (separatedBy expected item) (separatedBy expected item') :=
  both.bind advances fun _ => remaining_heedless.bind remaining_advances fun count =>
    (further_matches advances both expected count).bind
      (further_advances (literal_advances expected) advances count) fun _ => .pure _

end Repetition

section Chains

variable {operator : Cursor → Option Operator × Cursor} {operand operand' : Eval Number}
  (reaches : ∀ c : Cursor, c.Reaches (operator c).2) (advances : operand.Advances)
  (both : Matches o operand operand')

include reaches advances both

theorem extend?_matches (left : Number) :
    Matches o (extend? operator operand left) (extend? operator operand' left) := by
  refine Matches.bind (.scan _) (scan_advances reaches) fun found => ?_
  cases found with
  | none => exact .pure none
  | some operation =>
    exact both.bind advances fun right =>
      (ofExcept_heedless _).bind (ofExcept_advances _) fun value => .pure (some value)

theorem chainFrom_matches (count : Nat) (left : Number) :
    Matches o (chainFrom operator operand count left) (chainFrom operator operand' count left) := by
  induction count generalizing left with
  | zero => exact .pure left
  | succ count ih =>
    refine (extend?_matches reaches advances both left).bind
      (extend?_advances reaches advances left) fun value => ?_
    cases value with
    | none => exact .pure left
    | some value => exact ih value

theorem chain_matches : Matches o (chain operator operand) (chain operator operand') := by
  refine both.bind advances fun first =>
    (extend?_matches reaches advances both first).bind
      (extend?_advances reaches advances first) fun value => ?_
  cases value with
  | none => exact .pure first
  | some value =>
    exact remaining_heedless.bind remaining_advances fun count =>
      chainFrom_matches reaches advances both count value

end Chains

/-- What stands in parentheses matches, and where a function is called, it is called in both. -/
structure Nesting.Matches (o : Outlook) (nesting nesting' : Nesting) : Prop where
  group : Eval.Matches o nesting.group nesting'.group
  argument : Eval.Matches o nesting.argument nesting'.argument
  callable : nesting.callable = nesting'.callable ∨ o.roomier ∧ nesting.callable = false

section Levels

variable {nesting nesting' : Nesting}

theorem closeParenthesis_heedless : closeParenthesis.Heedless o :=
  Matches.bind (.scan _) (literal_advances _) fun found => require_heedless found _

theorem sign_heedless : sign.Heedless o :=
  Matches.bind (.scan _) (literal_advances _) fun _ =>
    .ite (.pure true) fun _ _ _ _ _ _ _ _ _ alike rooms => .ok false _ alike rooms

variable (advances : nesting.All Advances) (both : nesting.Matches o nesting')

include advances both

theorem arguments_matches : Matches o (arguments nesting) (arguments nesting') := by
  refine Matches.bind (.scan _) (literal_advances _) fun _ => .ite ?_ (.pure [])
  refine Matches.bind (.scan _) (literal_advances _) fun _ => .ite (.pure []) ?_
  exact (separatedBy_matches advances.argument both.argument _).bind
    (separatedBy_advances _ advances.argument)
    fun values => closeParenthesis_heedless.bind closeParenthesis_advances fun _ => .pure values

theorem named_matches {name : Text} (h : ∀ b, o.hidden b → name ≠ b.name) (negative : Bool) :
    Matches o (named nesting negative name) (named nesting' negative name) := by
  unfold named
  split
  · rename_i b hb
    have other : ¬o.hidden b := fun hidden => h b hidden (Builtin.name_of_ofName? hb).symm
    have called := (arguments_matches advances both).bind (arguments_advances advances.argument)
      fun values => call_heedless other values
    rcases both.callable with same | ⟨roomier, uncallable⟩
    · rw [same]
      exact .ite called (.throw _)
    · rw [uncallable]
      exact .tooComplex roomier
  · refine (valueOf?_heedless name).bind (valueOf?_advances name) fun value => ?_
    cases value with
    | none => exact .throw _
    | some value => exact .pure _

theorem factor_matches : Matches o (factor nesting) (factor nesting') := by
  refine sign_heedless.bind sign_advances fun negative =>
    Matches.bind (.scan _) (scan_advances Cursor.number_reaches) fun token => ?_
  cases token with
  | some token => exact .pure _
  | none =>
    refine Matches.bind_found (.scan _) (scan_advances Cursor.identifier_reaches) ?_
    intro context r name s clear found
    cases name with
    | some name =>
      refine named_matches advances both (fun b hidden same => ?_) negative
      refine clear r.cursor (.refl _) b hidden ?_
      rw [(scan_ok found).1, same]
    | none =>
      refine Matches.bind (.scan _) (literal_advances _) fun _ => .ite ?_ (failNear_heedless _)
      exact both.group.bind advances.group fun _ =>
        closeParenthesis_heedless.bind closeParenthesis_advances fun _ => .pure _

theorem arithmetic_matches : Matches o (arithmetic nesting) (arithmetic nesting') :=
  chain_matches (fun c => c.eitherSign_reaches _ _) (term_advances advances)
    (chain_matches (fun c => c.eitherSign_reaches _ _) (factor_advances advances)
      (factor_matches advances both))

theorem comparison_matches : Matches o (comparison nesting) (comparison nesting') := by
  refine (arithmetic_matches advances both).bind (arithmetic_advances advances) fun left =>
    Matches.bind (.scan _) (scan_advances Cursor.relation_reaches) fun relation => ?_
  cases relation with
  | none => exact .pure left
  | some relation =>
    exact (arithmetic_matches advances both).bind (arithmetic_advances advances) fun _ => .pure _

theorem negation_matches : Matches o (negation nesting) (negation nesting') := by
  have inner := comparison_matches advances both
  exact Matches.bind (.scan _) (keyword_advances _) fun _ =>
    .ite (inner.bind (comparison_advances advances) fun _ => .pure _) inner

theorem disjunction_matches : Matches o (disjunction nesting) (disjunction nesting') :=
  chain_matches (fun c => c.logical_reaches _ _) (conjunction_advances advances)
    (chain_matches (fun c => c.logical_reaches _ _) (negation_advances advances)
      (negation_matches advances both))

end Levels

section Room

/-- The evaluation fails as the operand does that it begins with, perhaps behind a `not`. -/
def FailsWith (operand : Eval Unit) (e : Eval Number) : Prop :=
  ∀ ⦃context r found s cause t⦄, keyword ['n', 'o', 't'] context r = .ok found s →
    operand context s = .error cause t → e context r = .error cause t

theorem breakOff_of_ok {operand : Eval Unit} {context : Context} {r s t : Reading} {found : Bool}
    (passed : keyword ['n', 'o', 't'] context r = .ok found s)
    (done : operand context s = .ok () t) :
    breakOff operand context r = .error .tooComplex t := by
  rw [breakOff, discard_eq, bind_assoc, bind_of_ok passed, pure_bind, bind_of_ok done]
  rfl

theorem breakOff_failsWith (operand : Eval Unit) : FailsWith operand (breakOff operand) := by
  intro context r found s cause t passed failed
  rw [breakOff, discard_eq, bind_assoc, bind_of_ok passed, pure_bind]
  exact bind_of_error failed _

theorem disjunction_failsWith (nesting : Nesting) :
    FailsWith (discard (factor nesting)) (disjunction nesting) := by
  intro context r found s cause t passed failed
  have factor : factor nesting context s = .error cause t := by
    rw [discard_eq] at failed
    rcases bind_eq_error_iff.mp failed with failed | ⟨_, _, -, ⟨⟩⟩
    exact failed
  have comparison : comparison nesting context s = .error cause t :=
    bind_of_error (bind_of_error (bind_of_error factor _) _) _
  have negation : negation nesting context r = .error cause t := by
    refine (bind_of_ok passed _).trans ?_
    cases found
    · exact comparison
    · exact bind_of_error comparison _
  exact bind_of_error (bind_of_error negation _) _

theorem exists_failsWith {room : Nat} (enough : 11 ≤ room) : ∃ nesting : Nesting,
    FailsWith (discard (factor nesting)) (expressionWithin room) ∧
      (12 ≤ room → nesting.callable = true) := by
  obtain rfl | rfl | enough : room = 11 ∨ room = 12 ∨ 13 ≤ room := by omega
  · exact ⟨_, breakOff_failsWith _, by omega⟩
  · exact ⟨_, breakOff_failsWith _, fun _ => rfl⟩
  · rw [expressionWithin_eq enough]
    exact ⟨_, disjunction_failsWith _, fun _ => rfl⟩

variable (roomier : o.roomier)

include roomier

theorem breakOff_matches {operand operand' : Eval Unit} {e : Eval Number}
    (both : Matches o operand operand') (fails : FailsWith operand' e) :
    Matches o (breakOff operand) e := by
  intro v clock clock' c g g' room room' clear alike rooms
  let d := (c.keyword ['n', 'o', 't']).2
  have results : o.Results clock clock' (operand ⟨v, clock⟩ ⟨d, g, room⟩)
      (operand' ⟨v, clock'⟩ ⟨d, g', room'⟩) :=
    both (clear.of_reaches (c.keyword_reaches _)) alike rooms
  generalize h : operand ⟨v, clock⟩ ⟨d, g, room⟩ = result at results
  generalize h' : operand' ⟨v, clock'⟩ ⟨d, g', room'⟩ = result' at results
  cases results with
  | ok _ d' =>
    rw [breakOff_of_ok rfl h]
    exact .tooComplex roomier _ _
  | error cause d' alike rooms =>
    rw [breakOff_failsWith operand rfl h, fails rfl h']
    exact .error cause d' alike rooms
  | tooComplex _ r =>
    rw [breakOff_failsWith operand rfl h]
    exact .tooComplex roomier _ _

/-- With more room an expression is evaluated alike, unless there is too little for it. -/
theorem expressionWithin_roomier {room room' : Nat} (le : room ≤ room') :
    Matches o (expressionWithin room) (expressionWithin room') := by
  induction room using Nat.strongRecOn generalizing room' with
  | ind room ih =>
    have cut {nesting nesting' : Nesting} (group : nesting.group = throw .tooComplex)
        (argument : nesting.argument = throw .tooComplex)
        (callable : nesting.callable = true → nesting'.callable = true) :
        Matches o (discard (factor nesting)) (discard (factor nesting')) := by
      have advances : nesting.All Advances :=
        ⟨group.symm ▸ .throw _, argument.symm ▸ .throw _⟩
      have both : nesting.Matches o nesting' := by
        refine ⟨group.symm ▸ .tooComplex roomier, argument.symm ▸ .tooComplex roomier, ?_⟩
        cases called : nesting.callable with
        | true => exact .inl (callable called).symm
        | false => exact .inr ⟨roomier, rfl⟩
      exact (factor_matches advances both).bind (factor_advances advances) fun _ => .pure _
    rcases Nat.lt_or_ge room 13 with few | enough
    · obtain rfl | rfl | few : room = 12 ∨ room = 11 ∨ room < 11 := by omega
      · obtain ⟨nesting, fails, callable⟩ := exists_failsWith (Nat.le_of_succ_le le)
        exact breakOff_matches roomier (cut rfl rfl fun _ => callable le) fails
      · obtain ⟨nesting, fails, -⟩ := exists_failsWith le
        exact breakOff_matches roomier (cut rfl rfl nofun) fails
      · rcases expressionWithin_of_lt few with broken | refused
        · rw [broken]
          exact breakOff_matches roomier (Matches.pure ()) nofun
        · rw [refused]
          exact .tooComplex roomier
    · rw [expressionWithin_eq enough, expressionWithin_eq (Nat.le_trans enough le)]
      refine disjunction_matches (nestingWithin_advances _) ⟨?_, ?_, .inl rfl⟩
      · exact ih _ (by omega) (Nat.sub_le_sub_right le 8)
      · exact ih _ (by omega) (Nat.sub_le_sub_right le 9)

end Room

theorem breakOff_heedless {operand : Eval Unit} (advances : operand.Advances)
    (heedless : operand.Heedless o) : (breakOff operand).Heedless o := by
  have skipped : (discard (keyword ['n', 'o', 't']) : Eval Unit).Heedless o :=
    Matches.bind (.scan _) (keyword_advances _) fun _ => .pure _
  exact skipped.bind ((keyword_advances _).bind fun _ => .pure _) fun _ =>
    heedless.bind advances fun _ => .throw _

theorem expressionWithin_heedless (room : Nat) : (expressionWithin room).Heedless o := by
  refine (expressionWithin_induction (P := fun e => e.Advances ∧ e.Heedless o)
    ⟨.throw _, .throw _⟩
    ⟨breakOff_advances (.pure _), breakOff_heedless (.pure _) (.pure _)⟩ ?_ ?_ room).2
  all_goals
    intro nesting h
    have advances : nesting.All Advances := ⟨h.group.1, h.argument.1⟩
    have both : nesting.Matches o nesting := ⟨h.group.2, h.argument.2, .inl rfl⟩
  · have operand : (discard (factor nesting) : Eval Unit).Advances :=
      (factor_advances advances).bind fun _ => .pure _
    exact ⟨breakOff_advances operand, breakOff_heedless operand <|
      (factor_matches advances both).bind (factor_advances advances) fun _ => .pure _⟩
  · exact ⟨disjunction_advances advances, disjunction_matches advances both⟩

theorem expressionWithin_matches {room room' : Nat} (rooms : o.Rooms room room') :
    Matches o (expressionWithin room) (expressionWithin room') := by
  rcases rooms with rfl | ⟨roomier, le⟩
  · exact expressionWithin_heedless room
  · exact expressionWithin_roomier roomier le

theorem nestingWithin_matches {room room' : Nat} (rooms : o.Rooms room room') :
    (nestingWithin room).Matches o (nestingWithin room') where
  group := expressionWithin_matches (rooms.map fun _ _ le => Nat.sub_le_sub_right le 8)
  argument := expressionWithin_matches (rooms.map fun _ _ le => Nat.sub_le_sub_right le 9)
  callable := .inl rfl

theorem expressionBelow_heedless (calls : Nat) : (expressionBelow calls).Heedless o :=
  .byRoom fun _ _ rooms =>
    expressionWithin_matches (rooms.map fun _ _ le => Nat.sub_le_sub_right le calls)

theorem expression_heedless : expression.Heedless o :=
  expressionBelow_heedless 0

theorem sumBelow_heedless (calls : Nat) : (sumBelow calls).Heedless o :=
  .byRoom fun _ _ rooms => arithmetic_matches (nestingWithin_advances _) <|
    nestingWithin_matches (rooms.map (f := (· + 5 - calls)) fun _ _ le => by omega)

theorem sum_heedless : sum.Heedless o :=
  sumBelow_heedless 0

end Eval

namespace Statement

open Eval

theorem keyword_heedless : keyword.Heedless o := by
  refine Matches.bind (.scan _) skipBlanks_advances fun _ =>
    Matches.bind (.scan _) (scan_advances Cursor.word_reaches) fun word => ?_
  cases word with
  | none => exact failNear_heedless _
  | some word =>
    dsimp only
    split
    · exact .pure _
    · exact .throw _

theorem holds_heedless : holds.Heedless o :=
  expression_heedless.bind expression_advances fun _ =>
    Matches.bind (.scan _) (Eval.keyword_advances _) fun found =>
      (require_heedless found _).bind (require_advances found _) fun _ =>
        descend_heedless.bind descend_advances fun _ => .pure _

theorem selectWithin_matches {depth depth' : Nat} (rooms : o.Rooms depth depth') :
    Matches o (selectWithin depth) (selectWithin depth') := by
  induction depth generalizing depth' with
  | zero =>
    rcases rooms with rfl | ⟨roomier, -⟩
    · exact .throw _
    · exact .tooComplex roomier
  | succ depth ih =>
    obtain ⟨depth', rfl⟩ : ∃ less, depth' = less + 1 :=
      Nat.exists_eq_succ_of_ne_zero (by rcases rooms with rfl | ⟨-, le⟩ <;> omega)
    have rooms : o.Rooms depth depth' :=
      rooms.map (f := Nat.pred) fun _ _ => Nat.pred_le_pred
    refine keyword_heedless.bind keyword_advances fun k => ?_
    split
    · exact holds_heedless.bind holds_advances fun _ =>
        .ite (ih rooms) (Matches.bind (.scan _) skipLine_advances fun _ => .pure none)
    · exact .pure _

theorem select_heedless : select.Heedless o :=
  .byRoom fun _ _ rooms => selectWithin_matches (rooms.map fun _ _ => Nat.succ_le_succ)

theorem loopStep_heedless : loopStep.Heedless o := by
  refine Matches.bind (.scan _) (Eval.keyword_advances _) fun _ => .ite ?_ (.pure 1)
  exact sum_heedless.bind sum_advances fun step => .ite (.throw _) (.pure step)

theorem repeats_heedless : repeats.Heedless o := by
  have condition (f : Number → Bool) : (do return f (← expression)).Heedless o :=
    expression_heedless.bind expression_advances fun _ => .pure _
  refine Matches.bind (.scan _) (Eval.keyword_advances _) fun _ => .ite (condition _) ?_
  exact Matches.bind (.scan _) (Eval.keyword_advances _) fun _ =>
    .ite (condition _) (failNear_heedless _)

theorem printable_heedless : printable.Heedless o := by
  refine Matches.bind (.scanStrictly _) string_advances fun content => ?_
  cases content with
  | some content => exact .pure _
  | none => exact (expressionBelow_heedless 1).bind (expressionBelow_advances 1) fun _ => .pure _

theorem printFurther_heedless (items : Nat) (text : String) (isOpen : Bool) :
    (printFurther items text isOpen).Heedless o := by
  induction items generalizing text isOpen with
  | zero => exact .pure _
  | succ items ih =>
    refine Matches.bind (.scan _) (scan_advances fun c => c.anyOf_reaches _) fun separator => ?_
    cases separator with
    | none => exact .pure _
    | some separator =>
      have others (isOpen : Bool) :
          (do printFurther items (text ++ (← printable)) isOpen).Heedless o :=
        printable_heedless.bind printable_advances fun _ => ih _ _
      exact .ite (Matches.bind (.scan _) atEnd_advances fun _ => .ite (.pure _) (others true))
        (others isOpen)

theorem printList_heedless : printList.Heedless o := by
  refine Matches.bind (.scan _) atEnd_advances fun _ => .ite (.pure _) ?_
  exact printable_heedless.bind printable_advances fun first =>
    remaining_heedless.bind remaining_advances fun items =>
      (printFurther_heedless items first false).bind (printFurther_advances items first false)
        fun _ => .pure _

theorem inputList_heedless : inputList.Heedless o := by
  have names : (separatedBy [','] Eval.name).Heedless o :=
    separatedBy_matches name_advances (.scanStrictly _) _
  have advances : (separatedBy [','] Eval.name).Advances := separatedBy_advances _ name_advances
  refine Matches.bind (.scanStrictly _) string_advances fun prompt => ?_
  cases prompt with
  | none => exact names.bind advances fun _ => .pure _
  | some prompt =>
    exact Matches.bind (.scan _) (literal_advances _) fun found =>
      (require_heedless found _).bind (require_advances found _) fun _ =>
        names.bind advances fun _ => .pure _

end Statement

end NumberedBasic
