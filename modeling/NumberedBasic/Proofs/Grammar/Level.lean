import NumberedBasic.Proofs.Evaluation.Repetition
import NumberedBasic.Proofs.Grammar.Scan
import NumberedBasic.Proofs.Grammar.Tree

/-! # Levels of expressions

Each level reads its own operators. A looser token behind an operand is no operator of
the level, and no operand begins like an operator.
-/

namespace NumberedBasic

open Text

/-- How tightly a token binds what stands before it. -/
def Token.strength : Token → Nat
  | closing | comma => 0
  | operator .or => 1
  | operator .and => 2
  | relation _ => 3
  | operator .plus | operator .minus => 4
  | operator .times | operator .per => 5
  | _ => 6

/-- The first of the tokens binds less than this. -/
def Looser (strength : Nat) (ts : List Token) : Prop :=
  ∀ t ∈ ts.head?, t.strength < strength

theorem Looser.mono {m n : Nat} {ts : List Token} (h : Looser m ts) (hmn : m ≤ n) : Looser n ts :=
  fun t ht => Nat.lt_of_lt_of_le (h t ht) hmn

namespace Rank

def strength : Rank → Nat
  | disjunction => 1
  | conjunction => 2
  | arithmetic => 4
  | term => 5

def operator : Rank → Cursor → Option Operator × Cursor
  | disjunction => Cursor.disjunctive
  | conjunction => Cursor.conjunctive
  | arithmetic => Cursor.additive
  | term => Cursor.multiplicative

theorem consumes (r : Rank) : Cursor.Consumes r.operator := by
  cases r with
  | disjunction | conjunction => exact Cursor.logical_consumes _ _
  | arithmetic | term => exact Cursor.eitherSign_consumes _ _

end Rank

namespace Phrase

def strength : Phrase → Nat
  | chain r => r.strength
  | negation | comparison => 3
  | factor => 6

def read (nesting : Eval.Nesting) : Phrase → Eval Number
  | chain .disjunction => Eval.disjunction nesting
  | chain .conjunction => Eval.conjunction nesting
  | chain .arithmetic => Eval.arithmetic nesting
  | chain .term => Eval.term nesting
  | negation => Eval.negation nesting
  | comparison => Eval.comparison nesting
  | factor => Eval.factor nesting

variable {nesting : Eval.Nesting}

theorem read_advances (h : nesting.All Eval.Advances) (p : Phrase) : (p.read nesting).Advances := by
  cases p with
  | chain r =>
    cases r with
    | disjunction => exact Eval.disjunction_advances h
    | conjunction => exact Eval.conjunction_advances h
    | arithmetic => exact Eval.arithmetic_advances h
    | term => exact Eval.term_advances h
  | negation => exact Eval.negation_advances h
  | comparison => exact Eval.comparison_advances h
  | factor => exact Eval.factor_advances h

theorem read_chain (h : nesting.All Eval.Advances) (r : Rank) :
    (chain r).read nesting = (do
      Eval.chainAll r.operator (r.operand.read nesting) (← r.operand.read nesting)) := by
  have hc : (chain r).read nesting = Eval.chain r.operator (r.operand.read nesting) := by
    cases r <;> rfl
  rw [hc, Eval.chain_eq r.consumes (read_advances h r.operand)]

end Phrase

theorem Rank.strength_operand (r : Rank) : r.operand.strength = r.strength + 1 := by
  cases r <;> rfl

theorem Operator.strength_eq (o : Operator) : (Token.operator o).strength = o.rank.strength := by
  cases o <;> rfl

namespace Token

variable {t : Token} {word : Text}

theorem avoids_of_kind (hk : t.kind ≠ .letters) (hw : word ≠ []) : t.Avoids word := by
  intro text spells
  obtain ⟨c, tail, rfl, hb⟩ := spells.begins
  have hc : isLetter c = false := by simpa [hk] using hb.isLetter_iff
  rw [List.takeWhile_cons_of_neg (by simp [hc])]
  exact hw.symm

theorem avoids_of_keyword {other : Text} (h : t.keyword? = some other) (hw : other ≠ word) :
    t.Avoids word := by
  intro text spells
  obtain ⟨letters, hl⟩ := spells.of_keyword h
  have hr : (text ++ []).takeWhile isLetter = text := takeWhile_run letters nofun
  rw [List.append_nil] at hr
  rw [hr, hl]
  exact hw

/-- No name of a function has the letters of `not` before a digit. -/
theorem function_avoids (b : Builtin) : (function b).Avoids ['n', 'o', 't'] := by
  intro text spells hl
  have hk : (function b).key? = some b.name := rfl
  obtain ⟨-, -, hn⟩ := spells.of_key hk
  have hp : lower (text.takeWhile isLetter) <+: b.name := by
    have h := lower_prefix (by rw [hl]; decide) (text.dropWhile isLetter)
    rwa [List.takeWhile_append_dropWhile, hn] at h
  rw [hl] at hp
  revert hp
  cases b <;> decide

theorem kind_ne_of_strength (h : t.strength < 6) : t.kind ≠ .digits := by
  cases t with
  | number l => exact absurd h (Nat.lt_irrefl 6)
  | operator o => cases o <;> simp [kind]
  | _ => simp [kind]

theorem ne_relation_of_strength (h : t.strength < 3) (r : Relation) :
    t ≠ relation r := by
  rintro rfl
  exact Nat.lt_irrefl 3 h

/-- A looser token is not taken for an operator that is a keyword. -/
theorem avoids_of_looser {o : Operator} (ho : (operator o).keyword? = some word)
    (h : t.strength < (operator o).strength) : t.Avoids word := by
  by_cases hk : t.kind = .letters
  · cases o with
    | or => cases t with
      | operator o' => cases o' <;> simp_all [strength, kind]
      | _ => simp_all [strength, kind]
    | and =>
      cases ho
      have hor : t.keyword? = some ['o', 'r'] := by
        cases t with
        | operator o' => cases o' <;> simp_all [strength, kind, keyword?]
        | _ => simp_all [strength, kind]
      exact avoids_of_keyword hor (by simp)
    | _ => cases ho
  · exact avoids_of_kind hk (kind_of_keyword ho).2

theorem eq_of_initial? {t' : Token} {c : Char} (h' : t'.sign? = some [c])
    (hr : ∀ r, t' ≠ relation r) (h : t.initial? = some c) : t = t' := by
  cases t' with
  | relation r => exact absurd rfl (hr r)
  | operator o' =>
    cases t with
    | operator o => cases o' <;> cases h' <;> cases o <;> simp_all [initial?, sign?]
    | relation r => cases o' <;> cases h' <;> cases r <;> simp_all [initial?, sign?, Relation.sign]
    | _ => cases o' <;> cases h' <;> simp_all [initial?, sign?]
  | number | name | function | not => cases h'
  | _ =>
    cases h'
    cases t with
    | operator o => cases o <;> simp_all [initial?, sign?]
    | relation r => cases r <;> simp_all [initial?, sign?, Relation.sign]
    | _ => simp_all [initial?, sign?]

end Token

namespace Cursor

variable {ts : List Token} {word : Text} {o : Operator}

theorem scans_literal_char_miss {t : Token} {first : Char} (h : t.sign? = some [first])
    (hr : ∀ r, t ≠ .relation r) (hts : t ∉ ts.head?) : Scans (literal [first]) [] ts false := by
  obtain ⟨-, _, _, ⟨⟩, hf⟩ := Token.begins_of_sign h
  exact scans_literal_miss hf fun t' ht hi => hts (Token.eq_of_initial? h hr hi ▸ ht)

theorem scans_logical (h : (Token.operator o).keyword? = some word) :
    Scans (logical o word) [.operator o] ts (some o) := by
  refine .of_exists_eq fun c hc => ?_
  obtain ⟨d, hm, hd⟩ := (scans_keyword h).exists_eq hc
  exact ⟨d, by simp only [logical, hm], hd⟩

theorem scans_logical_miss (h : (Token.operator o).keyword? = some word)
    (hts : Looser (Token.operator o).strength ts) : Scans (logical o word) [] ts none := by
  refine .of_exists_eq fun c hc => ?_
  obtain ⟨d, hm, hd⟩ := (scans_keyword_miss (Token.lower_of_keyword h) (Token.kind_of_keyword h).2
    fun t ht => Token.avoids_of_looser h (hts t ht)).exists_eq hc
  exact ⟨d, by simp only [logical, hm], hd⟩

section Signs

variable {a b : Char} {o' : Operator}

variable (ha : (Token.operator o).sign? = some [a]) (hb : (Token.operator o').sign? = some [b])

include ha in
theorem scans_eitherSign_first :
    Scans (eitherSign (a, o) (b, o')) [.operator o] ts (some o) := by
  refine .of_exists_eq fun c hc => ?_
  obtain ⟨d, hm, hd⟩ := (scans_literal ha).exists_eq hc
  exact ⟨d, by simp only [eitherSign, hm], hd⟩

include ha hb

theorem scans_eitherSign_second (hne : o' ≠ o) :
    Scans (eitherSign (a, o) (b, o')) [.operator o'] ts (some o') := by
  refine .of_exists_eq fun c hc => ?_
  have hf : Scans (literal [a]) [] (.operator o' :: ts) false := by
    refine scans_literal_char_miss ha nofun ?_
    simp [hne]
  obtain ⟨d, hm, hd⟩ := hf.exists_eq hc
  have hs : Scans (literal [b]) [.operator o'] ts true := scans_literal hb
  obtain ⟨e, hm', he⟩ := hs.exists_eq hd
  exact ⟨e, by simp only [eitherSign, hm, hm'], he⟩

theorem scans_eitherSign_miss (h : .operator o ∉ ts.head?) (h' : .operator o' ∉ ts.head?) :
    Scans (eitherSign (a, o) (b, o')) [] ts none := by
  refine .of_exists_eq fun c hc => ?_
  have hs : Scans (literal [b]) [] ts false := scans_literal_char_miss hb nofun h'
  obtain ⟨d, hm, hd⟩ := (scans_literal_char_miss ha nofun h).exists_eq hc
  obtain ⟨e, hm', he⟩ := hs.exists_eq hd
  exact ⟨e, by simp only [eitherSign, hm, hm'], he⟩

end Signs

end Cursor

namespace Rank

theorem scans (o : Operator) (ts : List Token) :
    Cursor.Scans o.rank.operator [.operator o] ts (some o) := by
  cases o with
  | or | and => exact Cursor.scans_logical rfl
  | plus => exact Cursor.scans_eitherSign_first rfl
  | minus => exact Cursor.scans_eitherSign_second rfl rfl nofun
  | times => exact Cursor.scans_eitherSign_first rfl
  | per => exact Cursor.scans_eitherSign_second rfl rfl nofun

theorem scans_miss {r : Rank} {ts : List Token} (h : Looser r.strength ts) :
    Cursor.Scans r.operator [] ts none := by
  have hn (o : Operator) (ho : o.rank = r) : .operator o ∉ ts.head? := by
    intro hm
    have hs := h _ hm
    rw [o.strength_eq, ho] at hs
    exact Nat.lt_irrefl _ hs
  cases r with
  | disjunction => exact Cursor.scans_logical_miss rfl h
  | conjunction => exact Cursor.scans_logical_miss rfl h
  | arithmetic => exact Cursor.scans_eitherSign_miss rfl rfl (hn .plus rfl) (hn .minus rfl)
  | term => exact Cursor.scans_eitherSign_miss rfl rfl (hn .times rfl) (hn .per rfl)

end Rank

section Heads

def Token.starts : Token → Bool
  | number _ | name _ | function _ | opening | operator .plus | operator .minus => true
  | _ => false

/-- Whether `not` can come first. -/
def Nonterminal.negates : Nonterminal → Bool
  | phrase (.chain .disjunction) | phrase (.chain .conjunction) | phrase .negation | items => true
  | _ => false

theorem Sign.starts (s : Sign) {t : Token} (ht : t.starts = true) (ts : List Token)
    (negates : Bool) : ∃ first ∈ (s.tokens ++ t :: ts).head?,
      first.starts = true ∨ first = .not ∧ negates = true := by
  cases s with
  | absent => exact ⟨t, rfl, .inl ht⟩
  | plus | minus => exact ⟨_, rfl, .inl rfl⟩

theorem Tree.starts {n : Nonterminal} (t : Tree n) (hn : n ≠ .arguments) :
    ∃ first ∈ t.tokens.head?, first.starts = true ∨ first = .not ∧ n.negates = true := by
  have append {tokens : List Token} (ts : List Token) {p : Token → Prop}
      (h : ∃ first ∈ tokens.head?, p first) : ∃ first ∈ (tokens ++ ts).head?, p first := by
    obtain ⟨first, hf, hp⟩ := h
    exact ⟨first, by rw [List.head?_append, Option.mem_def.mp hf]; rfl, hp⟩
  induction t with
  | @operand r t ih =>
    have hr : (Nonterminal.phrase (.chain r)).negates = (Nonterminal.phrase r.operand).negates := by
      cases r <;> rfl
    rw [hr]
    exact ih nofun
  | binary left o rank right ihl ihr => exact append _ (ihl nofun)
  | plain t ih =>
    obtain ⟨first, hf, h | h⟩ := ih nofun
    · exact ⟨first, hf, .inl h⟩
    · cases h.2
  | opposite t ih => exact ⟨.not, rfl, .inr ⟨rfl, rfl⟩⟩
  | single t ih => exact ih nofun
  | related left r right ihl ihr => exact append _ (ihl nofun)
  | number s l => exact s.starts rfl _ _
  | name s v => exact s.starts rfl _ _
  | call s b arguments ih => exact s.starts rfl _ _
  | group s t ih => exact s.starts rfl _ _
  | bare | empty | listed => exact absurd rfl hn
  | last t ih => exact ih nofun
  | next t others iht iho => exact append _ (iht nofun)

variable {t : Token}

theorem Token.avoids_of_starts (h : t.starts = true) : t.Avoids ['n', 'o', 't'] := by
  cases t with
  | name v =>
    intro text spells
    cases spells with
    | name => exact v.letters_ne
    | keyword keyword => cases keyword
    | sign sign => cases sign
  | function b => exact function_avoids b
  | operator o =>
    cases o with
    | or | and => cases h
    | _ => exact avoids_of_kind nofun (by simp)
  | not => cases h
  | _ => exact avoids_of_kind nofun (by simp)

theorem Token.ne_relation_of_starts (h : t.starts = true) (r : Relation) : t ≠ relation r := by
  rintro rfl
  cases h

variable {n : Nonterminal} {ts : List Token}

theorem Tree.starts_append (tree : Tree n) (hn : n ≠ .arguments) :
    ∀ t ∈ (tree.tokens ++ ts).head?, t.starts = true ∨ t = .not ∧ n.negates = true := by
  obtain ⟨first, hf, h⟩ := tree.starts hn
  intro t ht
  rw [List.head?_append, Option.mem_def.mp hf] at ht
  cases ht
  exact h

theorem Tree.kind_arguments_append (tree : Tree .arguments)
    (hts : ∀ t ∈ ts.head?, t.kind ≠ .digits) :
    ∀ t ∈ (tree.tokens ++ ts).head?, t.kind ≠ .digits := by
  cases tree with
  | bare => exact hts
  | empty | listed =>
    rintro _ ⟨⟩
    nofun

end Heads

end NumberedBasic
