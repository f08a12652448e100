import NumberedBasic.Proofs.Grammar.Covers

/-! # The evaluator is sound for its grammar

What an evaluation has read is the text of a parse, whose value it has computed. It stops
where nothing ahead continues the parse, as each chain has looked for one more operator.
-/

namespace NumberedBasic

open Text

namespace Eval

/-- An evaluation that succeeds has read a parse for its value, and stops at a text that
ends the parse. -/
def Sound {n : Nonterminal} (e : Eval n.Value) (ends : Parse n → Text → Prop) : Prop :=
  ∀ ⦃context : Context⦄ ⦃r s : Reading⦄ ⦃a : n.Value⦄, e context r = .ok a s →
    ∃ t : Parse n, Covers context r s t.words t.value a ∧ ends t s.cursor.ahead

variable {context : Context} {r s : Reading}

section Chains

variable {nesting : Nesting} (advances : nesting.All Advances) (rank : Rank)
    {ends : Parse (.phrase rank.operand) → Text → Prop}
  (operand : Sound (n := .phrase rank.operand) (rank.operand.read nesting) ends)

include advances operand

theorem chainAll_sound {left a : Number} {start : Reading} (t : Parse (.phrase (.chain rank)))
    (covers : Covers context start r t.words t.value left)
    (last : ends t.lastOperand r.cursor.ahead)
    (h : chainAll rank.operator (rank.operand.read nesting) left context r = .ok a s) :
    ∃ t : Parse (.phrase (.chain rank)), Covers context start s t.words t.value a ∧
      rank.Over s.cursor.ahead ∧ ends t.lastOperand s.cursor.ahead := by
  induction hn : r.cursor.rest.length using Nat.strong_induction_on generalizing r left t with
  | _ n ih =>
    rw [chainAll_eq rank.consumes (Phrase.read_advances advances _)] at h
    obtain ⟨next, u, he, h⟩ := bind_eq_ok_iff.mp h
    cases next with
    | none =>
      cases h
      obtain ⟨hm, still⟩ := extend?_none he
      obtain ⟨skips, passed⟩ := Rank.operator_skips hm
      rw [← skips.ahead_eq] at passed last
      exact ⟨t, covers.followed skips still, passed, last⟩
    | some value =>
      have shorter := extend?_shortens rank.consumes (Phrase.read_advances advances _) he
      obtain ⟨o, v, right, hm, still, hr, applied⟩ := extend?_some he
      obtain ⟨ho, word, spells, found⟩ := Rank.operator_finds hm
      obtain ⟨t', covers', last'⟩ := operand hr
      have result : Covers context u u [] (o.value left right) value := by
        rw [Operator.value_of_apply applied]
        exact .skip (.refl _) (.refl u) value
      exact ih _ (hn ▸ shorter) (.binary t o ho word spells t')
        (covers.bind ((Covers.word found still ()).known (covers'.andThen result))) last' h rfl

theorem chain_sound : Sound (n := .phrase (.chain rank)) ((Phrase.chain rank).read nesting)
    fun t text => rank.Over text ∧ ends t.lastOperand text := by
  intro context r s a h
  rw [Phrase.read_chain advances] at h
  obtain ⟨left, u, hl, h⟩ := bind_eq_ok_iff.mp h
  obtain ⟨t, covers, last⟩ := operand hl
  exact chainAll_sound advances rank operand (.operand t) covers last h

end Chains

section Factors

theorem items_sound {nested : Eval Number} {ends : Parse (.phrase .expression) → Text → Prop}
    (advances : nested.Advances) (inner : Sound (n := .phrase .expression) nested ends) :
    Sound (n := .items) (separatedBy [','] nested) fun _ _ => True := by
  intro context r s values h
  induction hn : r.cursor.rest.length using Nat.strong_induction_on generalizing r values with
  | _ n ih =>
    rw [separatedBy_eq (by simp) advances] at h
    obtain ⟨first, u, hf, h⟩ := bind_eq_ok_iff.mp h
    obtain ⟨t, covers, -⟩ := inner hf
    have shorter := (advances.of_ok hf).cursor.length_le
    obtain ⟨found, v, hv, h⟩ := bind_eq_ok_iff.mp h
    obtain ⟨hm, still⟩ := scan_eq_ok_iff.mp hv
    cases found with
    | false =>
      cases h
      exact ⟨.last t, (covers.followed (Cursor.literal_skips hm).1 still).map fun a => [a], trivial⟩
    | true =>
      obtain ⟨others, w, hw, h⟩ := bind_eq_ok_iff.mp h
      cases h
      have shorter' := literal_shortens (by simp) hv
      obtain ⟨t', covers', -⟩ := ih _ (by omega) hw rfl
      exact ⟨.next t t', covers.bind ((Covers.word (Cursor.literal_finds hm) still ()).known
        (covers'.map (first :: ·))), trivial⟩

variable {nesting : Nesting} {ends : Parse (.phrase .expression) → Text → Prop}
  (inner : nesting.All fun e => e.Advances ∧ Sound (n := .phrase .expression) e ends)

include inner

theorem arguments_sound : Sound (n := .arguments) (arguments nesting) fun _ _ => True := by
  intro context r s values h
  obtain ⟨opened, u, hu, h⟩ := bind_eq_ok_iff.mp h
  obtain ⟨hm, still⟩ := scan_eq_ok_iff.mp hu
  cases opened with
  | false =>
    cases h
    exact ⟨.bare, .skip (Cursor.literal_skips hm).1 still [], trivial⟩
  | true =>
    have opening : Covers context r u [['(']] (pure ()) () :=
      .word (Cursor.literal_finds hm) still ()
    obtain ⟨closed, v, hv, h⟩ := bind_eq_ok_iff.mp h
    obtain ⟨hm', still'⟩ := scan_eq_ok_iff.mp hv
    cases closed with
    | true =>
      cases h
      exact ⟨.empty, opening.known (.word (Cursor.literal_finds hm') still' []), trivial⟩
    | false =>
      obtain ⟨values', w, hw, h⟩ := bind_eq_ok_iff.mp h
      obtain ⟨_, w', hc, h⟩ := bind_eq_ok_iff.mp h
      cases h
      obtain ⟨items, covers, -⟩ := items_sound inner.argument.1 inner.argument.2 hw
      obtain ⟨found, still''⟩ := closeParenthesis_finds hc
      have closing : Covers context w s [[')']] (pure values) values := .word found still'' values
      have both : Covers context v s (items.words ++ [[')']]) (items.value >>= pure) values :=
        covers.bind closing
      rw [bind_pure] at both
      exact ⟨.listed items, opening.known (.skipped (Cursor.literal_skips hm').1 still' both),
        trivial⟩

theorem named_covers {sign : Sign} {word key : Text} {a : Number} {start : Reading}
    (isName : IsName word) (hk : lower word = key)
    (before : Covers context start r (sign.words ++ [word]) (pure ()) ())
    (h : named nesting sign.negative key context r = .ok a s) :
    ∃ t : Parse (.phrase .factor), Covers context start s t.words t.value a := by
  subst hk
  unfold named at h
  cases hb : Builtin.ofName? (lower word) with
  | some b =>
    simp only [hb] at h
    split at h
    case isFalse => cases h
    obtain ⟨values, u, hu, h⟩ := bind_eq_ok_iff.mp h
    obtain ⟨arguments, covers, -⟩ := arguments_sound inner hu
    refine ⟨.call sign b word (.function isName (Builtin.name_of_ofName? hb).symm) arguments, ?_⟩
    have both := before.known (covers.andThen (call_covers h))
    rwa [List.append_assoc] at both
  | none =>
    rw [hb] at h
    obtain ⟨found, u, hu, h⟩ := bind_eq_ok_iff.mp h
    cases hu
    cases hv : context.variables.get? (lower word) with
    | none =>
      rw [hv] at h
      cases h
    | some value =>
      rw [hv] at h
      cases h
      have looked : Covers context r r [] (Valuation.lookup (lower word)) value := by
        refine ⟨⟨[], .refl _, .nil (List.forall_mem_nil _)⟩, ?_, rfl⟩
        unfold Valuation.lookup
        rw [hv]
      have both := before.known (looked.map sign.apply)
      rw [List.append_nil] at both
      exact ⟨.name sign word isName hb, both⟩

theorem factor_sound : Sound (n := .phrase .factor) (factor nesting) fun _ _ => True := by
  intro context r s a h
  obtain ⟨negative, u, hs, h⟩ := bind_eq_ok_iff.mp h
  obtain ⟨sign, rfl, signed⟩ := sign_covers hs
  obtain ⟨token, v, hv, h⟩ := bind_eq_ok_iff.mp h
  obtain ⟨hm, still⟩ := scan_eq_ok_iff.mp hv
  cases token with
  | some token =>
    cases h
    obtain ⟨l, rfl, found⟩ := Cursor.number_finds hm
    exact ⟨.number sign l, signed.known (.word found still _), trivial⟩
  | none =>
    replace signed := signed.followed (Cursor.number_skips hm) still
    obtain ⟨name, w, hw, h⟩ := bind_eq_ok_iff.mp h
    obtain ⟨hm', still'⟩ := scan_eq_ok_iff.mp hw
    cases name with
    | some key =>
      obtain ⟨word, isName, hk, found⟩ := Cursor.identifier_finds hm'
      obtain ⟨t, covers⟩ := named_covers inner isName hk
        (signed.known (.word found still' ())) h
      exact ⟨t, covers, trivial⟩
    | none =>
      replace signed := signed.followed (Cursor.identifier_skips hm') still'
      obtain ⟨opened, x, hx, h⟩ := bind_eq_ok_iff.mp h
      obtain ⟨hm'', still''⟩ := scan_eq_ok_iff.mp hx
      cases opened with
      | false => cases h
      | true =>
        have opening : Covers context w x [['(']] (pure ()) () :=
          .word (Cursor.literal_finds hm'') still'' ()
        obtain ⟨value, y, hy, h⟩ := bind_eq_ok_iff.mp h
        obtain ⟨_, z, hz, h⟩ := bind_eq_ok_iff.mp h
        cases h
        obtain ⟨t, covers, -⟩ := inner.group.2 hy
        obtain ⟨found, closes⟩ := closeParenthesis_finds hz
        have closing : Covers context y s [[')']] (pure (sign.apply value)) (sign.apply value) :=
          .word found closes _
        exact ⟨.group sign t, signed.known (opening.known (covers.bind closing)), trivial⟩

end Factors

section Levels

/-- A comparison is followed by no operator of arithmetic, and by a relation only if it has
one already. -/
def Settled (t : Parse (.phrase .comparison)) (text : Text) : Prop :=
  (Rank.arithmetic.Over text ∧ Rank.term.Over text) ∧
    ∀ r : Relation, r.sign <+: text → t.IsRelated

variable {nesting : Nesting} {ends : Parse (.phrase .expression) → Text → Prop}
  (inner : nesting.All fun e => e.Advances ∧ Sound (n := .phrase .expression) e ends)

include inner

theorem arithmetic_sound : Sound (n := .phrase .arithmetic) (arithmetic nesting)
    fun _ text => Rank.arithmetic.Over text ∧ Rank.term.Over text := by
  have advances : nesting.All Advances := ⟨inner.group.1, inner.argument.1⟩
  have term : Sound (n := .phrase (.chain .term)) (term nesting) fun _ text =>
      Rank.term.Over text := by
    intro context r s a h
    obtain ⟨t, covers, passed, -⟩ := chain_sound advances .term
      (factor_sound inner) h
    exact ⟨t, covers, passed⟩
  exact chain_sound advances .arithmetic term

theorem comparison_sound : Sound (n := .phrase .comparison) (comparison nesting) Settled := by
  intro context r s a h
  obtain ⟨left, u, hl, h⟩ := bind_eq_ok_iff.mp h
  obtain ⟨t, covers, passed⟩ := arithmetic_sound inner hl
  obtain ⟨relation, v, hv, h⟩ := bind_eq_ok_iff.mp h
  obtain ⟨hm, still⟩ := scan_eq_ok_iff.mp hv
  cases relation with
  | none =>
    cases h
    obtain ⟨skips, absent⟩ := Cursor.relation_skips hm
    rw [← skips.ahead_eq] at passed absent
    exact ⟨.single t, covers.followed skips still, passed, fun r hr => absurd hr (absent r)⟩
  | some relation =>
    obtain ⟨right, w, hr, h⟩ := bind_eq_ok_iff.mp h
    cases h
    obtain ⟨t', covers', passed'⟩ := arithmetic_sound inner hr
    refine ⟨.related t relation t', ?_, passed', fun _ _ => trivial⟩
    exact covers.bind ((Covers.word (Cursor.relation_finds hm) still ()).known
      (covers'.map fun b => Number.ofTruth (relation.holds left b)))

theorem negation_sound : Sound (n := .phrase .negation) (negation nesting)
    fun t text => Settled t.comparison text := by
  intro context r s a h
  obtain ⟨found, u, hu, h⟩ := bind_eq_ok_iff.mp h
  obtain ⟨hm, still⟩ := scan_eq_ok_iff.mp hu
  cases found with
  | true =>
    obtain ⟨value, v, hv, h⟩ := bind_eq_ok_iff.mp h
    cases h
    obtain ⟨t, covers, settled⟩ := comparison_sound inner hv
    obtain ⟨text, letters, hl, found⟩ := Cursor.keyword_finds hm
    have spells : Token.not.Spells text :=
      .keyword rfl letters (hl.trans (Token.lower_of_keyword (t := .not) rfl))
    refine ⟨.opposite text spells t, ?_, settled⟩
    exact (Covers.word found still ()).known (covers.map fun a => Number.ofTruth a.isZero)
  | false =>
    obtain ⟨t, covers, settled⟩ := comparison_sound inner h
    obtain ⟨skips, -⟩ := Cursor.keyword_skips (by decide) hm
    exact ⟨.plain t, .skipped skips still covers, settled⟩

theorem disjunction_sound : Sound (n := .phrase .expression) (disjunction nesting)
    fun t text => (∀ rank : Rank, rank.Over text) ∧ Settled t.lastComparison text := by
  intro context r s a h
  have advances : nesting.All Advances := ⟨inner.group.1, inner.argument.1⟩
  obtain ⟨t, covers, passed, passed', settled⟩ := chain_sound advances .disjunction
    (chain_sound advances .conjunction (negation_sound inner)) h
  refine ⟨t, covers, ?_, settled⟩
  rintro (_ | _ | _ | _)
  · exact passed
  · exact passed'
  · exact settled.1.1
  · exact settled.1.2

end Levels

theorem expressionWithin_sound (room : Nat) :
    Sound (n := .phrase .expression) (expressionWithin room)
      fun t text => (∀ rank : Rank, rank.Over text) ∧ Settled t.lastComparison text := by
  let Whole (e : Eval Number) : Prop := e.Advances ∧ Sound (n := .phrase .expression) e
    fun t text => (∀ rank : Rank, rank.Over text) ∧ Settled t.lastComparison text
  have whole : Whole (expressionWithin room) := by
    have broken {operand : Eval Unit} (advances : operand.Advances) : Whole (breakOff operand) :=
      ⟨breakOff_advances advances, fun _ _ _ _ h => absurd h breakOff_ne_ok⟩
    refine expressionWithin_induction ⟨.throw _, nofun⟩ (broken (.pure _)) (fun nesting inner => ?_)
      (fun nesting inner => ?_) room
    all_goals have advances : nesting.All Advances := ⟨inner.group.1, inner.argument.1⟩
    · exact broken ((factor_advances advances).bind fun _ => .pure _)
    · exact ⟨disjunction_advances advances, disjunction_sound inner⟩
  exact whole.2

theorem expressionBelow_room {calls : Nat} {a : Number}
    (h : expressionBelow calls context r = .ok a s) : s.room = r.room := by
  obtain ⟨t, covers, -⟩ := expressionWithin_sound _ h
  exact covers.room

/-- An expression that has a value has been read as the words of a parse, with blanks or
nothing between them. It has the value of the parse, and nothing ahead continues it: no sign
of arithmetic, no `and` or `or`, and no relation unless its last comparison has one already. -/
theorem expression_sound {context : Context} {c d : Cursor} {g g' : Generator} {room room' : Nat}
    {value : Number}
    (h : expression context ⟨c, g, room⟩ = .ok value ⟨d, g', room'⟩) :
    ∃ (t : Parse (.phrase .expression)) (text : Text),
      c.Passes text d ∧ Spaced t.words text ∧ t.value context g = .ok value g' ∧
        c.column < d.column ∧
        (∀ first ∈ d.ahead.head?, first ∉ ['+', '-', '*', '/']) ∧
        lower (d.ahead.takeWhile isLetter) ∉ [['a', 'n', 'd'], ['o', 'r']] ∧
        ∀ r : Relation, r.sign <+: d.ahead → t.lastComparison.IsRelated := by
  obtain ⟨t, ⟨⟨text, passes, spaced⟩, value, -⟩, passed, -, related⟩ := expressionWithin_sound _ h
  refine ⟨t, text, passes, spaced, value, ?_, ?_, ?_, related⟩
  · obtain ⟨word, hw, hl⟩ := t.exists_word nofun
    have longer := spaced.length_le hw
    have moved : d.column = c.column + text.length := passes.2
    omega
  · intro first hf hs
    obtain ⟨rest, hr⟩ : ∃ rest, d.ahead = first :: rest := by
      cases ha : d.ahead with
      | nil => simp [ha] at hf
      | cons first' rest =>
        rw [ha] at hf
        cases hf
        exact ⟨rest, rfl⟩
    have leads {o : Operator} (ho : (Token.operator o).sign? = some [first]) : False :=
      passed o.rank o rfl (.inr ⟨[first], ho, rest, hr.symm⟩)
    simp only [List.mem_cons, List.not_mem_nil, or_false] at hs
    rcases hs with rfl | rfl | rfl | rfl
    · exact leads (o := .plus) rfl
    · exact leads (o := .minus) rfl
    · exact leads (o := .times) rfl
    · exact leads (o := .per) rfl
  · intro hw
    simp only [List.mem_cons, List.not_mem_nil, or_false] at hw
    rcases hw with hw | hw
    · exact passed .conjunction .and rfl (.inl ⟨_, rfl, hw⟩)
    · exact passed .disjunction .or rfl (.inl ⟨_, rfl, hw⟩)

/-- The first of two relations is read, and the second one stays ahead. -/
theorem second_relation_left :
    ∃ (t : Parse (.phrase .expression)) (d : Cursor) (g : Generator),
      expression ⟨Table.empty, 0⟩ ⟨.start ['1', '<', '2', '<', '3'], default, 13⟩ =
        .ok (1 : Number).neg ⟨d, g, 13⟩ ∧
      d = ⟨3, ['<', '3']⟩ ∧ Spaced t.words ['1', '<', '2'] ∧ t.lastComparison.IsRelated := by
  have read :
      (match expression ⟨Table.empty, 0⟩ ⟨.start ['1', '<', '2', '<', '3'], default, 13⟩ with
      | .ok value r => some (value, r.cursor, r.room)
      | .error _ _ => none) = some ((1 : Number).neg, ⟨3, ['<', '3']⟩, 13) := by
    decide +kernel
  have leads : Relation.less.sign <+: Cursor.ahead ⟨3, ['<', '3']⟩ := by decide +kernel
  cases h : expression ⟨Table.empty, 0⟩ ⟨.start ['1', '<', '2', '<', '3'], default, 13⟩ with
  | error cause r => simp [h] at read
  | ok value r =>
    obtain ⟨c, g, room⟩ := r
    simp only [h, Option.some.injEq, Prod.mk.injEq] at read
    obtain ⟨hv, hc, rfl⟩ := read
    obtain ⟨t, text, ⟨passed, -⟩, spaced, -, -, -, -, related⟩ := expression_sound h
    rw [hc] at passed related
    obtain rfl : ['1', '<', '2'] = text := List.append_cancel_right passed
    exact ⟨t, c, g, by rw [hv], hc, spaced, related .less leads⟩

end Eval

end NumberedBasic
