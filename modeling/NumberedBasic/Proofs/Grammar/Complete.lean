import NumberedBasic.Proofs.Evaluation.Blanks
import NumberedBasic.Proofs.Grammar.Phrase

/-! # The evaluator is complete for its grammar

Every tree is read from every spelling of its tokens for its value. Each level reads its
trees if what follows binds less, because then no operator is taken for one of the level.
-/

namespace NumberedBasic

open Eval

/-- Reads a part of an expression, with readers for the expressions in parentheses. -/
def Nonterminal.read (nesting : Nesting) : (n : Nonterminal) → Eval n.Value
  | phrase p => p.read nesting
  | arguments => Eval.arguments nesting
  | items => separatedBy [','] nesting.argument

def Nonterminal.Ends (ts : List Token) : Nonterminal → Prop
  | phrase p => Looser p.strength ts
  | arguments => Looser 6 ts
  | items => ∃ others, ts = .closing :: others

/-- A chain is read together with whatever continues it, with its value on the left.
Any other tree is read for its value. -/
def Tree.Read (nesting : Nesting) : {n : Nonterminal} → Tree n → Prop
  | .phrase (.chain r), t =>
    ∀ (tokens ts : List Token) (m : Number → Valuation Number),
      Looser r.operand.strength (tokens ++ ts) →
      (∀ left, Reads (chainAll r.operator (r.operand.read nesting) left) tokens ts (m left)) →
      Reads ((Phrase.chain r).read nesting) (t.tokens ++ tokens) ts (t.value >>= m)
  | n, t => ∀ ts, n.Ends ts → Reads (n.read nesting) t.tokens ts t.value

variable {nesting : Nesting}

theorem Tree.Read.reads (advances : nesting.All Advances) {n : Nonterminal} {t : Tree n}
    (h : t.Read nesting) {ts : List Token} (hts : n.Ends ts) :
    Reads (n.read nesting) t.tokens ts t.value := by
  match n, t, h with
  | .phrase (.chain r), t, h =>
    have hl : Looser r.operand.strength ts :=
      Looser.mono hts (r.strength_operand ▸ Nat.le_succ r.strength)
    have hr := h [] ts pure hl (reads_chainAll_done advances hts)
    rwa [List.append_nil, bind_pure] at hr
  | .phrase .negation, t, h => exact h ts hts
  | .phrase .comparison, t, h => exact h ts hts
  | .phrase .factor, t, h => exact h ts hts
  | .arguments, t, h => exact h ts hts
  | .items, t, h => exact h ts hts

theorem Tree.read_operand (advances : nesting.All Advances) {r : Rank}
    {t : Tree (.phrase r.operand)}
    (h : t.Read nesting) : (Tree.operand t).Read nesting := by
  intro tokens ts m hl others
  rw [Phrase.read_chain advances]
  exact (h.reads advances hl).bind others

theorem Tree.read_binary (advances : nesting.All Advances) {r : Rank} {o : Operator}
    {rank : o.rank = r}
    {left : Tree (.phrase (.chain r))} {right : Tree (.phrase r.operand)} (hl : left.Read nesting)
    (hr : right.Read nesting) : (Tree.binary left o rank right).Read nesting := by
  intro tokens ts m looser others
  have h := hl (.operator o :: (right.tokens ++ tokens)) ts _ ?_
    (reads_chainAll_more advances rank (hr.reads advances looser) others)
  · simpa only [Tree.tokens, Tree.value, bind_assoc, List.append_assoc, List.cons_append] using h
  · intro t ht
    cases ht
    rw [o.strength_eq, r.strength_operand, rank]
    exact Nat.lt_succ_self _

theorem Tree.reads_inner {t : Tree (.phrase .expression)} {room : Nat} {ts : List Token}
    (enough : 9 * t.nesting + 13 ≤ room) (h : t.Read (nestingWithin room))
    (hts : Looser 1 ts) : Reads (expressionWithin room) t.tokens ts t.value := by
  rw [expressionWithin_eq (Nat.le_trans (Nat.le_add_left _ _) enough)]
  exact h.reads (nestingWithin_advances room) hts

/-- Every tree is read where there is room for nine calls for each of its levels. -/
theorem Tree.read {n : Nonterminal} (t : Tree n) {room : Nat} (h : 9 * t.nesting + 13 ≤ room) :
    t.Read (nestingWithin room) := by
  have looser_closing (ts : List Token) : Looser 1 (.closing :: ts) := by
    rintro _ ⟨⟩
    exact Nat.one_pos
  have looser_comma (ts : List Token) : Looser 1 (.comma :: ts) := by
    rintro _ ⟨⟩
    exact Nat.one_pos
  induction t generalizing room with
  | operand t ih => exact read_operand (nestingWithin_advances room) (ih h)
  | binary left o rank right ihl ihr =>
    simp only [nesting] at h
    exact read_binary (nestingWithin_advances room) (ihl (by omega)) (ihr (by omega))
  | plain t ih =>
    intro ts hts
    have hn : ∀ first ∈ (t.tokens ++ ts).head?, first.Avoids ['n', 'o', 't'] := by
      intro first hf
      rcases t.starts_append nofun first hf with hs | ⟨-, hn⟩
      · exact Token.avoids_of_starts hs
      · cases hn
    exact reads_plain hn ((ih h).reads (nestingWithin_advances room) hts)
  | opposite t ih =>
    intro ts hts
    exact reads_opposite ((ih h).reads (nestingWithin_advances room) hts)
  | single t ih =>
    intro ts hts
    have hl : Looser 4 ts := Looser.mono hts (Nat.le_succ 3)
    exact reads_single hts ((ih h).reads (nestingWithin_advances room) hl)
  | related left r right ihl ihr =>
    simp only [nesting] at h
    intro ts hts
    have hl' : Looser 4 (.relation r :: (right.tokens ++ ts)) := by
      rintro _ ⟨⟩
      exact Nat.lt_succ_self 3
    have hr' : ∀ first ∈ (right.tokens ++ ts).head?, ∀ r, first ≠ .relation r := by
      intro first hf
      rcases right.starts_append nofun first hf with hs | ⟨-, hn⟩
      · exact Token.ne_relation_of_starts hs
      · cases hn
    exact reads_related hr' ((ihl (by omega)).reads (nestingWithin_advances room) hl')
      ((ihr (by omega)).reads (nestingWithin_advances room) (Looser.mono hts (Nat.le_succ 3)))
  | number s l => exact fun ts hts => reads_number s l hts
  | name s v => exact fun ts hts => reads_name s v hts
  | call s b arguments ih =>
    intro ts hts
    have ha := arguments.kind_arguments_append fun t ht => Token.kind_ne_of_strength (hts t ht)
    exact reads_function s b rfl ha ((ih h).reads (nestingWithin_advances room) hts)
  | group s t ih =>
    simp only [nesting] at h
    intro ts hts
    exact reads_group s (reads_inner (by omega) (ih (by omega)) (looser_closing ts))
  | bare => exact fun ts hts => reads_bare hts
  | empty => exact fun ts hts => reads_empty
  | listed items ih =>
    intro ts hts
    have hc : .closing ∉ (items.tokens ++ .closing :: ts).head? := by
      intro hc
      rcases items.starts_append nofun _ hc with hs | ⟨hs, -⟩ <;> cases hs
    exact reads_listed hc ((ih h).reads (nestingWithin_advances room) ⟨ts, rfl⟩)
  | last t ih =>
    simp only [nesting] at h
    rintro _ ⟨ts, rfl⟩
    exact reads_last (nestingWithin_advances room).argument
      (reads_inner (by omega) (ih (by omega)) (looser_closing ts))
  | next t others iht iho =>
    simp only [nesting] at h
    intro ts hts
    exact reads_next (nestingWithin_advances room).argument
      (reads_inner (by omega) (iht (by omega)) (looser_comma _))
      ((iho (by omega)).reads (nestingWithin_advances room) hts)

theorem Cursor.eq_end {text : Text} {c : Cursor} (reached : (start text).Reaches c)
    (settled : c.Settled) (rest : Spelled [] c.rest) : c = ⟨text.length, []⟩ := by
  obtain ⟨hc, hr⟩ := reached.rest_eq_drop
  have hd := rest.dropWhile_of_nil
  have hn : c.rest = [] := by
    cases hc : c.rest with
    | nil => rfl
    | cons first tail =>
      have hf : Text.isBlank first = false := settled first (by rw [hc]; rfl)
      simp [hc, hf] at hd
  have hl : text.length ≤ c.column := List.drop_eq_nil_iff.mp (hr.symm.trans hn)
  obtain ⟨column, rest⟩ := c
  cases hn
  cases Nat.le_antisymm hc hl
  rfl

/-- Expressions have the values of their trees from every spelling, which is read to its end, or
fail as their trees do, where there is room for thirteen calls and for nine more for every level
of parentheses and calls. Sixty levels take little more than half of a limit of a thousand. -/
theorem Tree.expression_complete (t : Tree (.phrase .expression)) {room : Nat}
    (enough : 9 * t.nesting + 13 ≤ room) {text : Text} (spelled : Spelled t.tokens text)
    (context : Context) (g : Generator) :
    (∀ value g', t.value context g = .ok value g' →
      expression context ⟨.start text, g, room⟩ = .ok value ⟨⟨text.length, []⟩, g', room⟩) ∧
    ∀ cause g', t.value context g = .error cause g' →
      ∃ c, expression context ⟨.start text, g, room⟩ = .error cause ⟨c, g', room⟩ := by
  have reads : Reads (expressionWithin room) t.tokens [] t.value :=
    reads_inner enough (t.read enough) nofun
  have h := reads context (.start text) g room ((List.append_nil t.tokens).symm ▸ spelled)
  generalize t.value context g = x at h
  change Agrees [] room x (expression context ⟨.start text, g, room⟩) at h
  cases he : expression context ⟨.start text, g, room⟩ with
  | ok value r =>
    obtain ⟨c, g', left⟩ := r
    have settled : c.Settled := expression_settles he
    have reached : (Cursor.start text).Reaches c := (expression_advances.of_ok he).cursor
    rw [he] at h
    cases h with
    | ok rest =>
      refine ⟨?_, nofun⟩
      rintro _ _ ⟨⟩
      rw [Cursor.eq_end reached settled rest]
  | error cause r =>
    rw [he] at h
    cases h with
    | error =>
      refine ⟨nofun, ?_⟩
      rintro _ _ ⟨⟩
      exact ⟨_, rfl⟩

/-- A variable in parentheses with a sign before them and blanks around it. -/
theorem signed_group_complete :
    expression ⟨Table.empty.insert ['x'] 1, 0⟩
      ⟨.start ['+', '(', ' ', 'X', ' ', ')'], default, 22⟩ = .ok 1 ⟨⟨6, []⟩, default, 22⟩ := by
  let x : VariableName := ⟨['X'], ⟨⟨'X', rfl, by decide +kernel⟩,
    List.all_eq_true.mp (by decide +kernel)⟩, by decide +kernel, by decide +kernel⟩
  let chain (t : Tree (.phrase .factor)) : Tree (.phrase .expression) :=
    .operand (r := .disjunction) (.operand (r := .conjunction) (.plain (.single
      (.operand (r := .arithmetic) (.operand (r := .term) t)))))
  let t := chain (.group .plus (chain (.name .absent x)))
  have spelled : Spelled t.tokens ([] ++ ['+'] ++ ([] ++ ['('] ++ ([' '] ++ ['X'] ++
      ([' '] ++ [')'] ++ [])))) := by
    have blank : ∀ c ∈ [' '], Text.isBlank c = true := List.all_eq_true.mp (by decide +kernel)
    refine .cons nofun (.sign rfl) nofun (.cons nofun (.sign rfl) nofun ?_)
    refine .cons blank (.name x) nofun (.cons blank (.sign rfl) nofun (.nil nofun))
  have value : t.value ⟨Table.empty.insert ['x'] 1, 0⟩ default = .ok 1 default := rfl
  have enough : 9 * t.nesting + 13 ≤ 22 := by decide
  exact (t.expression_complete enough spelled _ default).1 1 default value

end NumberedBasic
