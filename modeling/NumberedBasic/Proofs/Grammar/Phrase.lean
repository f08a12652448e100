import NumberedBasic.Proofs.Grammar.Reads

/-! # Readers of phrases

Each part of an expression is read for what is computed from its parts, if its parts are
read for their values. What follows has to be looser, and no operand begins like it.
-/

namespace NumberedBasic

namespace Eval

section Chains

theorem reads_operator (ts : List Token) (o : Operator) (a b : Number) :
    Reads (ofExcept (o.apply a b)) [] ts (o.value a b) := by
  cases o with
  | or =>
    have h : Number.ofTruth (!a.isZero || !b.isZero) =
        if a.isZero ∧ b.isZero then 0 else (1 : Number).neg := by
      cases a.isZero <;> cases b.isZero <;> rfl
    simp only [Operator.apply, Operator.value, h]
    exact .pure _
  | and =>
    have h : Number.ofTruth (!a.isZero && !b.isZero) =
        if a.isZero ∨ b.isZero then 0 else (1 : Number).neg := by
      cases a.isZero <;> cases b.isZero <;> rfl
    simp only [Operator.apply, Operator.value, h]
    exact .pure _
  | per =>
    simp only [Operator.apply, Operator.value]
    split
    · exact .throw _
    · exact .pure _
  | plus | minus | times => exact .pure _

variable {nesting : Nesting} {r : Rank} {tokens tokens' ts : List Token}

variable (advances : nesting.All Advances)

include advances

theorem reads_chainAll_done (h : Looser r.strength ts) (left : Number) :
    Reads (chainAll r.operator (r.operand.read nesting) left) [] ts (pure left) := by
  rw [chainAll_eq r.consumes (Phrase.read_advances advances _)]
  have hm : Reads (extend? r.operator (r.operand.read nesting) left) [] ts (pure none) :=
    .skip (.of_scans (Rank.scans_miss h)) (.pure none)
  exact .skip hm (.pure left)

theorem reads_chainAll_more {o : Operator} (ho : o.rank = r) {m : Valuation Number}
    {k : Number → Valuation Number}
    (right : Reads (r.operand.read nesting) tokens (tokens' ++ ts) m)
    (others : ∀ left, Reads (chainAll r.operator (r.operand.read nesting) left) tokens' ts (k left))
    (left : Number) :
    Reads (chainAll r.operator (r.operand.read nesting) left)
      (.operator o :: (tokens ++ tokens')) ts (do
        let b ← m
        let value ← o.value left b
        k value) := by
  subst ho
  rw [chainAll_eq o.rank.consumes (Phrase.read_advances advances _)]
  unfold extend?
  simp only [bind_assoc]
  refine .token (.of_scans (Rank.scans o _)) ?_
  simp only [bind_assoc, pure_bind]
  exact right.bind fun b => (reads_operator _ o left b).bind others

end Chains

section Factors

variable {nesting : Nesting} {ts tokens : List Token} {m : Valuation Number}

theorem reads_number (s : Sign) (l : Literal) (h : Looser 6 ts) :
    Reads (factor nesting) (s.tokens ++ [.number l]) ts
      (pure (s.apply (Number.ofLiteral l.text))) := by
  refine .known (reads_sign s (by simp) (by simp)) ?_
  exact .token (.of_scans (Cursor.scans_number fun t ht => Token.kind_ne_of_strength (h t ht)))
    (.pure _)

theorem reads_name (s : Sign) (v : VariableName) (h : Looser 6 ts) :
    Reads (factor nesting) (s.tokens ++ [.name v]) ts
      (do return s.apply (← Valuation.lookup (Text.lower v.spelling))) := by
  refine .known (reads_sign s (by simp) (by simp)) ?_
  refine .skip (.of_scans (Cursor.scans_number_miss (by simp [Token.kind]))) ?_
  refine .token (.of_scans (Cursor.scans_identifier rfl fun t ht =>
    Token.kind_ne_of_strength (h t ht))) ?_
  simp only [named, v.free]
  exact reads_lookup _ s

theorem reads_function (s : Sign) (b : Builtin) (callable : nesting.callable = true)
    (ha : ∀ t ∈ (tokens ++ ts).head?, t.kind ≠ .digits)
    {m : Valuation (List Number)} (arguments : Reads (arguments nesting) tokens ts m) :
    Reads (factor nesting) (s.tokens ++ .function b :: tokens) ts
      (do Valuation.call b (← m)) := by
  refine .known (reads_sign s (by simp) (by simp)) ?_
  refine .skip (.of_scans (Cursor.scans_number_miss (by simp [Token.kind]))) ?_
  refine .token (.of_scans (Cursor.scans_identifier rfl ha)) ?_
  simp only [named, b.ofName?_name, callable, if_true]
  exact arguments.andThen fun values => reads_call b values

theorem reads_group (s : Sign) (inner : Reads nesting.group tokens (.closing :: ts) m) :
    Reads (factor nesting) (s.tokens ++ .opening :: (tokens ++ [.closing])) ts
      (do return s.apply (← m)) := by
  refine .known (reads_sign s (by simp) (by simp)) ?_
  refine .skip (.of_scans (Cursor.scans_number_miss (by simp [Token.kind]))) ?_
  refine .skip (.of_scans (Cursor.scans_identifier_miss (by simp [Token.kind]))) ?_
  refine .token (.of_scans (Cursor.scans_literal rfl)) ?_
  exact inner.bind fun value => .token reads_closeParenthesis (.pure _)

end Factors

section Arguments

variable {nesting : Nesting} {ts tokens : List Token}

theorem reads_bare (h : Looser 6 ts) : Reads (arguments nesting) [] ts (pure []) := by
  have ho : .opening ∉ ts.head? := fun ho => absurd (h _ ho) (Nat.lt_irrefl 6)
  exact .skip (.of_scans (Cursor.scans_literal_char_miss (t := .opening) rfl nofun ho)) (.pure [])

theorem reads_empty : Reads (arguments nesting) [.opening, .closing] ts (pure []) :=
  .token (.of_scans (Cursor.scans_literal rfl))
    (.token (.of_scans (Cursor.scans_literal rfl)) (.pure []))

theorem reads_listed {m : Valuation (List Number)}
    (hc : .closing ∉ (tokens ++ .closing :: ts).head?)
    (items : Reads (separatedBy [','] nesting.argument) tokens (.closing :: ts) m) :
    Reads (arguments nesting) (.opening :: (tokens ++ [.closing])) ts m := by
  refine .token (.of_scans (Cursor.scans_literal rfl)) ?_
  refine .skip (.of_scans (Cursor.scans_literal_char_miss (t := .closing) rfl nofun ?_)) ?_
  · simpa using hc
  · rw [← bind_pure m]
    exact items.bind fun values => .token reads_closeParenthesis (.pure values)

variable {m : Valuation Number} (advances : nesting.argument.Advances)

include advances

theorem reads_last (item : Reads nesting.argument tokens (.closing :: ts) m) :
    Reads (separatedBy [','] nesting.argument) tokens (.closing :: ts) (do return [← m]) := by
  rw [separatedBy_eq (by simp) advances]
  refine item.andThen fun first => ?_
  exact .skip (.of_scans (Cursor.scans_literal_char_miss (t := .comma) rfl nofun (by simp)))
    (.pure [first])

theorem reads_next {tokens' : List Token} {k : Valuation (List Number)}
    (item : Reads nesting.argument tokens (.comma :: (tokens' ++ ts)) m)
    (others : Reads (separatedBy [','] nesting.argument) tokens' ts k) :
    Reads (separatedBy [','] nesting.argument) (tokens ++ .comma :: tokens') ts
      (do
        let first ← m
        return first :: (← k)) := by
  rw [separatedBy_eq (by simp) advances]
  refine item.bind fun first => ?_
  exact .token (.of_scans (Cursor.scans_literal rfl)) (others.map (first :: ·))

end Arguments

section Comparisons

variable {nesting : Nesting} {ts tokens tokens' : List Token} {m k : Valuation Number}

theorem reads_single (h : Looser 3 ts) (t : Reads (arithmetic nesting) tokens ts m) :
    Reads (comparison nesting) tokens ts m := by
  rw [← bind_pure m]
  refine t.andThen fun left => ?_
  exact .skip (.of_scans (Cursor.scans_relation_miss fun t ht =>
    Token.ne_relation_of_strength (h t ht))) (.pure left)

theorem reads_related {r : Relation} (h : ∀ t ∈ (tokens' ++ ts).head?, ∀ r, t ≠ .relation r)
    (left : Reads (arithmetic nesting) tokens (.relation r :: (tokens' ++ ts)) m)
    (right : Reads (arithmetic nesting) tokens' ts k) :
    Reads (comparison nesting) (tokens ++ .relation r :: tokens') ts
      (do
        let a ← m
        let b ← k
        return if r.holds a b then (1 : Number).neg else 0) := by
  refine left.bind fun a => ?_
  refine .token (.of_scans (Cursor.scans_relation h)) ?_
  exact right.map fun b => Number.ofTruth (r.holds a b)

theorem reads_plain (h : ∀ t ∈ (tokens ++ ts).head?, t.Avoids ['n', 'o', 't'])
    (t : Reads (comparison nesting) tokens ts m) : Reads (negation nesting) tokens ts m :=
  .skip (.of_scans (Cursor.scans_keyword_miss rfl (by simp) h)) t

theorem reads_opposite (t : Reads (comparison nesting) tokens ts m) :
    Reads (negation nesting) (.not :: tokens) ts
      (do return if (← m).isZero then (1 : Number).neg else 0) :=
  .token (.of_scans (Cursor.scans_keyword rfl)) (t.map fun a => Number.ofTruth a.isZero)

end Comparisons

end Eval

end NumberedBasic
