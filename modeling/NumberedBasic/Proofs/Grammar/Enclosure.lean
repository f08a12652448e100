import NumberedBasic.Proofs.Grammar.Alone
import NumberedBasic.Proofs.Grammar.Sound

/-! # Parentheses around nested expressions

A level evaluates another expression only behind a parenthesis that it has passed and that is still
open there. What the other expressions elsewhere come to is nothing to it. So expressions nest no
deeper than there are opening parentheses ahead, and room for more than that does not matter.
-/

namespace NumberedBasic

open Text

namespace Text

/-- As many parentheses are opened as closed. -/
def Balanced (text : Text) : Prop :=
  text.count '(' = text.count ')'

theorem Balanced.append {text text' : Text} (h : text.Balanced) (h' : text'.Balanced) :
    (text ++ text').Balanced := by
  unfold Balanced at *
  simp only [List.count_append, h, h']

theorem balanced_of_not_mem {text : Text} (opening : '(' ∉ text) (closing : ')' ∉ text) :
    text.Balanced :=
  (List.count_eq_zero.mpr opening).trans (List.count_eq_zero.mpr closing).symm

theorem balanced_of_class {p : Char → Bool} {text : Text} (inside : ∀ c ∈ text, p c = true)
    (outside : p '(' = false ∧ p ')' = false) : text.Balanced := by
  refine balanced_of_not_mem (fun h => ?_) (fun h => ?_)
  · simpa [outside.1] using inside _ h
  · simpa [outside.2] using inside _ h

theorem balanced_of_blank {blanks : Text} (blank : ∀ c ∈ blanks, isBlank c = true) :
    blanks.Balanced :=
  balanced_of_class blank (by decide +kernel)

end Text

theorem IsName.balanced {text : Text} (h : IsName text) : text.Balanced :=
  balanced_of_class h.2 (by decide +kernel)

theorem Literal.balanced (l : Literal) : l.text.Balanced := by
  have digits {text : Text} (inside : ∀ c ∈ text, isDigit c = true) : text.Balanced :=
    balanced_of_class inside (by decide +kernel)
  obtain ⟨whole, fraction, -, inside, inside'⟩ := l
  cases fraction with
  | none => exact digits inside
  | some fraction =>
    have point : Balanced ['.'] := rfl
    exact (digits inside).append (point.append (digits (inside' fraction rfl)))

theorem Token.Spells.balanced {t : Token} {word : Text} (h : t.Spells word)
    (other : t ≠ .opening ∧ t ≠ .closing) : word.Balanced := by
  cases h with
  | number l => exact l.balanced
  | name v => exact v.isName.balanced
  | function isName => exact isName.balanced
  | keyword keyword letters => exact balanced_of_class letters (by decide +kernel)
  | sign sign =>
    cases t with
    | operator o => cases o <;> cases sign <;> rfl
    | relation r => cases sign; cases r <;> rfl
    | comma => cases sign; rfl
    | opening => exact absurd rfl other.1
    | closing => exact absurd rfl other.2
    | _ => cases sign

theorem Sign.balanced (s : Sign) : Balanced s.words.flatten := by
  cases s <;> rfl

theorem Spaced.count_eq {words : List Text} {text : Text} (h : Spaced words text) {c : Char}
    (hc : isBlank c = false) : text.count c = words.flatten.count c := by
  have blanks {blanks : Text} (blank : ∀ b ∈ blanks, isBlank b = true) : blanks.count c = 0 := by
    refine List.count_eq_zero.mpr fun mem => ?_
    simp [blank c mem] at hc
  induction h with
  | nil blank => simp [blanks blank]
  | cons blank others ih => simp [blanks blank, ih]

theorem Spaced.balanced {words : List Text} {text : Text} (h : Spaced words text)
    (balanced : Balanced words.flatten) : text.Balanced :=
  (h.count_eq (by decide +kernel)).trans (balanced.trans (h.count_eq (by decide +kernel)).symm)

/-- Every parenthesis of a parse is closed in it. -/
theorem Parse.balanced {n : Nonterminal} (t : Parse n) : Balanced t.words.flatten := by
  have enclosed {words : List Text} (h : Balanced words.flatten) :
      Balanced (['('] :: (words ++ [[')']])).flatten := by
    unfold Text.Balanced at *
    simp [h]
  have word {text : Text} {words : List Text} (h : text.Balanced) (h' : Balanced words.flatten) :
      Balanced (text :: words).flatten := h.append h'
  have append {words words' : List Text} (h : Balanced words.flatten)
      (h' : Balanced words'.flatten) : Balanced (words ++ words').flatten := by
    rw [List.flatten_append]
    exact h.append h'
  induction t with
  | operand t ih => exact ih
  | binary left o rank text spells right ihl ihr =>
    exact append ihl (word (spells.balanced ⟨nofun, nofun⟩) ihr)
  | plain t ih => exact ih
  | opposite text spells t ih => exact word (spells.balanced ⟨nofun, nofun⟩) ih
  | single t ih => exact ih
  | related left r right ihl ihr =>
    have spells : (Token.relation r).Spells r.sign := .sign rfl
    exact append ihl (word (spells.balanced ⟨nofun, nofun⟩) ihr)
  | number s l => exact append s.balanced (word l.balanced rfl)
  | name s text isName => exact append s.balanced (word isName.balanced rfl)
  | call s b text spells arguments ih =>
    exact append s.balanced (word (spells.balanced ⟨nofun, nofun⟩) ih)
  | group s t ih => exact append s.balanced (enclosed ih)
  | bare => rfl
  | empty => rfl
  | listed items ih => exact enclosed ih
  | last t ih => exact ih
  | next t others iht iho => exact append iht (word rfl iho)

namespace Cursor

def Balances (c d : Cursor) : Prop :=
  ∃ piece, c.Passes piece d ∧ piece.Balanced

/-- A parenthesis that is opened between the cursors is not closed between them. -/
def Opens (c d : Cursor) : Prop :=
  ∃ piece, c.Passes piece d ∧ piece.count ')' < piece.count '('

variable {c d e : Cursor} {word : Text}

theorem Balances.refl (c : Cursor) : c.Balances c :=
  ⟨[], .refl c, rfl⟩

theorem Balances.trans (h : c.Balances d) (h' : d.Balances e) : c.Balances e := by
  obtain ⟨piece, passes, balanced⟩ := h
  obtain ⟨piece', passes', balanced'⟩ := h'
  exact ⟨piece ++ piece', passes.trans passes', balanced.append balanced'⟩

theorem Balances.opens (h : c.Balances d) (h' : d.Opens e) : c.Opens e := by
  obtain ⟨piece, passes, balanced⟩ := h
  obtain ⟨piece', passes', more⟩ := h'
  refine ⟨piece ++ piece', passes.trans passes', ?_⟩
  have balanced : piece.count '(' = piece.count ')' := balanced
  simp only [List.count_append]
  omega

theorem Finds.balances (h : c.Finds word d) (balanced : word.Balanced) : c.Balances d := by
  obtain ⟨blanks, blank, passes⟩ := h
  exact ⟨blanks ++ word, passes, (balanced_of_blank blank).append balanced⟩

theorem Skips.balances (h : c.Skips d) : c.Balances d :=
  Finds.balances h rfl

/-- What is reached behind an opening parenthesis by balanced pieces is within it. -/
theorem Finds.opens (h : c.Finds ['('] d) (h' : d.Balances e) : c.Opens e := by
  obtain ⟨blanks, blank, passes⟩ := h
  obtain ⟨piece, passes', balanced⟩ := h'
  refine ⟨blanks ++ ['('] ++ piece, passes.trans passes', ?_⟩
  have blanks_balanced : blanks.count '(' = blanks.count ')' := balanced_of_blank blank
  have piece_balanced : piece.count '(' = piece.count ')' := balanced
  simp only [List.count_append]
  have opening : ['('].count '(' = 1 := rfl
  have closing : ['('].count ')' = 0 := rfl
  omega

theorem Opens.count_lt (h : c.Opens d) : d.rest.count '(' < c.rest.count '(' := by
  obtain ⟨piece, ⟨rest, -⟩, more⟩ := h
  rw [rest, List.count_append]
  omega

end Cursor

namespace Eval

variable {α β : Type} {context : Context} {r s : Reading}

def Balances (e : Eval α) : Prop :=
  ∀ ⦃context : Context⦄ ⦃r s : Reading⦄ ⦃a : α⦄,
    e context r = .ok a s → r.cursor.Balances s.cursor

theorem Covers.balances {words : List Text} {m : Valuation α} {a : α}
    (h : Covers context r s words m a) (balanced : Balanced words.flatten) :
    r.cursor.Balances s.cursor := by
  obtain ⟨⟨text, passes, spaced⟩, -, -⟩ := h
  exact ⟨text, passes, spaced.balanced balanced⟩

theorem Sound.balances {n : Nonterminal} {e : Eval n.Value} {ends : Parse n → Text → Prop}
    (sound : Sound e ends) : e.Balances := by
  intro context r s a h
  obtain ⟨t, covers, -⟩ := sound h
  exact covers.balances t.balanced

namespace Balances

theorem pure (a : α) : (pure a : Eval α).Balances := by
  intro context r s b h
  cases h
  exact .refl _

theorem bind {e : Eval α} {f : α → Eval β} (he : e.Balances) (hf : ∀ a, (f a).Balances) :
    (e >>= f).Balances := by
  intro context r s b h
  obtain ⟨a, t, ha, hb⟩ := bind_eq_ok_iff.mp h
  exact (he ha).trans (hf a hb)

theorem scan {matcher : Cursor → α × Cursor}
    (h : ∀ ⦃c d : Cursor⦄ ⦃a : α⦄, matcher c = (a, d) → c.Balances d) :
    (scan matcher).Balances :=
  fun _ _ _ _ read => h (scan_eq_ok_iff.mp read).1

end Balances

theorem operator_balances (rank : Rank) : (scan rank.operator).Balances := by
  refine .scan fun c d found read => ?_
  cases found with
  | none => exact (Rank.operator_skips read).1.balances
  | some o =>
    obtain ⟨-, word, spells, found⟩ := Rank.operator_finds read
    exact found.balances (spells.balanced ⟨nofun, nofun⟩)

theorem relation_balances : (scan Cursor.relation).Balances := by
  refine .scan fun c d found read => ?_
  cases found with
  | none => exact (Cursor.relation_skips read).1.balances
  | some relation =>
    have spells : (Token.relation relation).Spells relation.sign := .sign rfl
    exact (Cursor.relation_finds read).balances (spells.balanced ⟨nofun, nofun⟩)

theorem not_balances : (keyword ['n', 'o', 't']).Balances := by
  refine .scan fun c d found read => ?_
  cases found with
  | true =>
    obtain ⟨text, letters, -, found⟩ := Cursor.keyword_finds read
    exact found.balances (balanced_of_class letters (by decide +kernel))
  | false => exact (Cursor.keyword_skips (by decide) read).1.balances

theorem number_balances : (scan Cursor.number).Balances := by
  refine .scan fun c d found read => ?_
  cases found with
  | none => exact (Cursor.number_skips read).balances
  | some token =>
    obtain ⟨l, rfl, found⟩ := Cursor.number_finds read
    exact found.balances l.balanced

theorem identifier_balances : (scan Cursor.identifier).Balances := by
  refine .scan fun c d found read => ?_
  cases found with
  | none => exact (Cursor.identifier_skips read).balances
  | some name =>
    obtain ⟨text, isName, -, found⟩ := Cursor.identifier_finds read
    exact found.balances isName.balanced

theorem sign_balances : sign.Balances := by
  intro context r s negative h
  obtain ⟨sign, -, covers⟩ := sign_covers h
  exact covers.balances sign.balanced

theorem extend?_balances {rank : Rank} {operand : Eval Number} (balances : operand.Balances)
    (left : Number) : (extend? rank.operator operand left).Balances := by
  refine (operator_balances rank).bind fun found => ?_
  cases found with
  | none => exact .pure none
  | some o =>
    refine balances.bind fun right => Balances.bind ?_ fun value => .pure (some value)
    intro context r s value h
    obtain ⟨-, rfl⟩ := ofExcept_ok h
    exact .refl _

section Coincidence

/-- What stands in parentheses comes to the same with both at a reading. -/
structure Nesting.AgreesAt (nesting other : Nesting) (context : Context) (r : Reading) : Prop where
  group : nesting.group context r = other.group context r
  argument : nesting.argument context r = other.argument context r

variable (nesting other : Nesting)

/-- Where the nested evaluations agree within all parentheses that are opened from there, so do
these two. -/
def Coincide (e e' : Eval α) : Prop :=
  ∀ ⦃context : Context⦄ ⦃r : Reading⦄,
    (∀ s : Reading, r.cursor.Opens s.cursor → nesting.AgreesAt other context s) →
      e context r = e' context r

variable {nesting other}

namespace Coincide

theorem refl (e : Eval α) : Coincide nesting other e e := fun _ _ _ => rfl

theorem bind {e e' : Eval α} {f f' : α → Eval β} (he : Coincide nesting other e e')
    (balances : e.Balances) (hf : ∀ a, Coincide nesting other (f a) (f' a)) :
    Coincide nesting other (e >>= f) (e' >>= f') :=
  fun _ _ agree => bind_congr (he agree) fun a _ h =>
    hf a fun t opens => agree t ((balances h).opens opens)

end Coincide

section Chains

variable {rank : Rank} {operand operand' : Eval Number} (balances : operand.Balances)
  (coincide : Coincide nesting other operand operand')

include balances coincide

theorem extend?_coincide (left : Number) : Coincide nesting other
    (extend? rank.operator operand left) (extend? rank.operator operand' left) := by
  refine (Coincide.refl _).bind (operator_balances rank) fun found => ?_
  cases found with
  | none => exact .refl _
  | some o => exact coincide.bind balances fun right => .refl _

theorem chainFrom_coincide (count : Nat) (left : Number) : Coincide nesting other
    (chainFrom rank.operator operand count left) (chainFrom rank.operator operand' count left) := by
  induction count generalizing left with
  | zero => exact .refl _
  | succ count ih =>
    refine (extend?_coincide balances coincide left).bind (extend?_balances balances left)
      fun value => ?_
    cases value with
    | none => exact .refl _
    | some value => exact ih value

theorem chain_coincide : Coincide nesting other (chain rank.operator operand)
    (chain rank.operator operand') := by
  refine coincide.bind balances fun first => ?_
  refine (extend?_coincide balances coincide first).bind (extend?_balances balances first)
    fun value => ?_
  cases value with
  | none => exact .refl _
  | some value =>
    have still : remaining.Balances := by
      intro context r s count h
      cases h
      exact .refl _
    exact (Coincide.refl _).bind still fun count =>
      chainFrom_coincide balances coincide count value

end Chains

theorem further_congr {nested nested' : Eval Number} (balances : nested.Balances) (count : Nat)
    (agree : ∀ s : Reading, r.cursor.Balances s.cursor → nested context s = nested' context s) :
    further (literal [',']) nested count context r =
      further (literal [',']) nested' count context r := by
  induction count generalizing r with
  | zero => rfl
  | succ count ih =>
    refine bind_congr rfl fun found s read => ?_
    obtain ⟨read, -⟩ := scan_eq_ok_iff.mp read
    cases found with
    | false => rfl
    | true =>
      have passed : r.cursor.Balances s.cursor := (Cursor.literal_finds read).balances rfl
      refine bind_congr (agree s passed) fun first t h => ?_
      exact bind_congr (ih fun u within => agree u (passed.trans ((balances h).trans within)))
        fun _ _ _ => rfl

theorem arguments_coincide (balances : nesting.argument.Balances) :
    Coincide nesting other (arguments nesting) (arguments other) := by
  intro context r agree
  refine bind_congr rfl fun opened s read => ?_
  obtain ⟨read, -⟩ := scan_eq_ok_iff.mp read
  cases opened with
  | false => rfl
  | true =>
    have within {t : Reading} (h : s.cursor.Balances t.cursor) :
        nesting.argument context t = other.argument context t :=
      (agree t ((Cursor.literal_finds read).opens h)).argument
    refine bind_congr rfl fun closed t read' => ?_
    obtain ⟨read', -⟩ := scan_eq_ok_iff.mp read'
    cases closed with
    | true => rfl
    | false =>
      have skipped := (Cursor.literal_skips read').1.balances
      refine bind_congr ?_ fun _ _ _ => rfl
      refine bind_congr (within skipped) fun first u h => ?_
      have passed := skipped.trans (balances h)
      refine bind_congr rfl fun count v counted => ?_
      cases counted
      exact bind_congr (further_congr balances _ fun w h => within (passed.trans h))
        fun _ _ _ => rfl

section Levels

variable (callable : nesting.callable = other.callable)

include callable

theorem named_coincide (balances : nesting.argument.Balances) (negative : Bool) (name : Text) :
    Coincide nesting other (named nesting negative name) (named other negative name) := by
  unfold named
  split
  · rw [callable]
    split
    · exact fun _ _ agree => bind_congr (arguments_coincide balances agree) fun _ _ _ => rfl
    · exact .refl _
  · exact .refl _

theorem factor_coincide (balances : nesting.argument.Balances) :
    Coincide nesting other (factor nesting) (factor other) := by
  refine (Coincide.refl _).bind sign_balances fun negative =>
    (Coincide.refl _).bind number_balances fun token => ?_
  cases token with
  | some token => exact .refl _
  | none =>
    refine (Coincide.refl _).bind identifier_balances fun name => ?_
    cases name with
    | some name => exact named_coincide callable balances negative name
    | none =>
      intro context r agree
      refine bind_congr rfl fun opened s read => ?_
      obtain ⟨read, -⟩ := scan_eq_ok_iff.mp read
      cases opened with
      | false => rfl
      | true =>
        exact bind_congr (agree s ((Cursor.literal_finds read).opens (.refl _))).group
          fun _ _ _ => rfl

omit callable

variable {ends : Parse (.phrase .expression) → Text → Prop}
  (inner : nesting.All fun e => e.Advances ∧ Sound (n := .phrase .expression) e ends)

include inner

theorem read_sound (p : Phrase) :
    ∃ ends : Parse (.phrase p) → Text → Prop, Sound (n := .phrase p) (p.read nesting) ends := by
  have advances : nesting.All Advances := ⟨inner.group.1, inner.argument.1⟩
  have negated := negation_sound inner
  cases p with
  | chain r =>
    cases r with
    | disjunction => exact ⟨_, disjunction_sound inner⟩
    | conjunction => exact ⟨_, chain_sound advances .conjunction negated⟩
    | arithmetic => exact ⟨_, arithmetic_sound inner⟩
    | term => exact ⟨_, chain_sound advances .term (factor_sound inner)⟩
  | negation => exact ⟨_, negated⟩
  | comparison => exact ⟨_, comparison_sound inner⟩
  | factor => exact ⟨_, factor_sound inner⟩

theorem read_balances (p : Phrase) : (p.read nesting).Balances := by
  obtain ⟨ends, sound⟩ := read_sound inner p
  exact sound.balances

include callable

/-- A level needs its nested evaluations only within parentheses. -/
theorem read_coincide (p : Phrase) :
    Coincide nesting other (p.read nesting) (p.read other) := by
  have balances (p : Phrase) := read_balances inner p
  have chain {r : Rank} (operand : Coincide nesting other (r.operand.read nesting)
      (r.operand.read other)) :
      Coincide nesting other ((Phrase.chain r).read nesting) ((Phrase.chain r).read other) := by
    have coincide : Coincide nesting other (Eval.chain r.operator (r.operand.read nesting))
        (Eval.chain r.operator (r.operand.read other)) :=
      chain_coincide (balances r.operand) operand
    cases r <;> exact coincide
  have factor : Coincide nesting other (factor nesting) (factor other) :=
    factor_coincide callable inner.argument.2.balances
  have arithmetic : Coincide nesting other (arithmetic nesting) (arithmetic other) :=
    chain (r := .arithmetic) (chain (r := .term) factor)
  have comparison : Coincide nesting other (comparison nesting) (comparison other) := by
    refine arithmetic.bind (balances .arithmetic) fun left =>
      (Coincide.refl _).bind relation_balances fun relation => ?_
    cases relation with
    | none => exact .refl _
    | some relation =>
      exact arithmetic.bind (balances .arithmetic) fun right => .refl _
  have negation : Coincide nesting other (negation nesting) (negation other) := by
    refine (Coincide.refl _).bind not_balances fun found => ?_
    cases found with
    | true => exact comparison.bind (balances .comparison) fun value => .refl _
    | false => exact comparison
  cases p with
  | chain r =>
    cases r with
    | disjunction => exact chain (r := .disjunction) (chain (r := .conjunction) negation)
    | conjunction => exact chain (r := .conjunction) negation
    | arithmetic => exact arithmetic
    | term => exact chain (r := .term) factor
  | negation => exact negation
  | comparison => exact comparison
  | factor => exact factor

end Levels

end Coincidence

section Nested

/-- The second reading is one of the nested evaluations of the level from the first one: what the
level comes to depends on what is nested there. -/
def Begins (level : Nesting → Eval α) (nesting : Nesting) (context : Context)
    (r s : Reading) : Prop :=
  ∃ other : Nesting, other.callable = nesting.callable ∧
    (∀ t, t ≠ s → nesting.AgreesAt other context t) ∧
      level other context r ≠ level nesting context r

theorem Begins.opens {level : Nesting → Eval α} {nesting : Nesting}
    (coincide : ∀ other : Nesting, nesting.callable = other.callable →
      Coincide nesting other (level nesting) (level other))
    (h : Begins level nesting context r s) : r.cursor.Opens s.cursor := by
  obtain ⟨other, callable, same, differs⟩ := h
  by_contra outside
  refine differs (coincide other callable.symm fun t within => ?_).symm
  have elsewhere : t ≠ s := by
    rintro rfl
    exact outside within
  exact same t elsewhere

theorem exists_other_error {σ : Type} (result : EStateM.Result Cause σ α) (s : σ) :
    ∃ cause, result ≠ .error cause s := by
  by_cases same : result = .error .tooComplex s
  · exact ⟨.divisionByZero, by rw [same]; nofun⟩
  · exact ⟨.tooComplex, same⟩

theorem factor_of_opening (nesting : Nesting) (context : Context) (column : Nat) (rest : Text)
    (g : Generator) (room : Nat) : factor nesting context ⟨⟨column, '(' :: rest⟩, g, room⟩ =
      (do let value ← nesting.group; closeParenthesis; return value : Eval Number) context
        ⟨⟨column + 1, rest⟩, g, room⟩ := by
  have outside : isBlank '(' = false ∧ isDigit '(' = false ∧ isLetter '(' = false := by
    decide +kernel
  have settled : Cursor.skipBlanks ⟨column, '(' :: rest⟩ = ⟨column, '(' :: rest⟩ := by
    refine Cursor.skipBlanks_of_head ?_
    rintro _ ⟨⟩
    exact outside.1
  have sign : sign context ⟨⟨column, '(' :: rest⟩, g, room⟩ =
      .ok false ⟨⟨column, '(' :: rest⟩, g, room⟩ := by
    have read : sign context ⟨⟨column, '(' :: rest⟩, g, room⟩ =
        .ok false ⟨Cursor.skipBlanks ⟨column, '(' :: rest⟩, g, room⟩ :=
      sign_of_head (by rw [settled]; rintro _ ⟨⟩; decide)
    rwa [settled] at read
  have number : Cursor.number ⟨column, '(' :: rest⟩ = (none, ⟨column, '(' :: rest⟩) := by
    simp [Cursor.number, settled, outside]
  have identifier : Cursor.identifier ⟨column, '(' :: rest⟩ = (none, ⟨column, '(' :: rest⟩) := by
    simp [Cursor.identifier, settled, outside]
  have opening : Cursor.literal ['('] ⟨column, '(' :: rest⟩ = (true, ⟨column + 1, rest⟩) := by
    simp [Cursor.literal, settled, Cursor.advance]
  exact (bind_of_ok sign _).trans ((bind_of_ok (scan_of_eq number) _).trans
    ((bind_of_ok (scan_of_eq identifier) _).trans (bind_of_ok (scan_of_eq opening) _)))

/-- Right behind a parenthesis a nested evaluation begins, whatever it comes to. -/
theorem begins_factor (nesting : Nesting) (context : Context) (column : Nat) (rest : Text)
    (g : Generator) (room : Nat) : Begins factor nesting context ⟨⟨column, '(' :: rest⟩, g, room⟩
      ⟨⟨column + 1, rest⟩, g, room⟩ := by
  obtain ⟨cause, differs⟩ := exists_other_error
    (factor nesting context ⟨⟨column, '(' :: rest⟩, g, room⟩) ⟨⟨column + 1, rest⟩, g, room⟩
  -- The evaluation that fails right here makes the whole factor fail.
  let other : Nesting :=
    { nesting with
      group := fun context' t =>
        if t = ⟨⟨column + 1, rest⟩, g, room⟩ then .error cause t else nesting.group context' t }
  refine ⟨other, rfl, fun t elsewhere => ⟨(if_neg elsewhere).symm, rfl⟩, fun same => differs ?_⟩
  exact same.symm.trans ((factor_of_opening other context column rest g room).trans
    (bind_of_error (if_pos rfl) _))

inductive Nest (context : Context) : Nat → Reading → Prop where
  | zero (r : Reading) : Nest context 0 r
  | succ {room count : Nat} {r s : Reading}
      (begins : Begins disjunction (nestingWithin room) context r s)
      (inner : Nest context count s) : Nest context (count + 1) r

theorem nestingWithin_sound (room : Nat) : (nestingWithin room).All fun e =>
    e.Advances ∧ Sound (n := .phrase .expression) e fun t text =>
      (∀ rank : Rank, rank.Over text) ∧ Settled t.lastComparison text :=
  nestingWithin_all (fun room => ⟨expressionWithin_advances room, expressionWithin_sound room⟩) room

theorem read_nestingWithin_coincide (room : Nat) (p : Phrase) {other : Nesting}
    (callable : (nestingWithin room).callable = other.callable) :
    Coincide (nestingWithin room) other (p.read (nestingWithin room)) (p.read other) :=
  read_coincide callable (nestingWithin_sound room) p

/-- Expressions nest no deeper than there are opening parentheses ahead. -/
theorem Nest.count_le {count : Nat} (h : Nest context count r) :
    count ≤ r.cursor.rest.count '(' := by
  induction h with
  | zero => exact Nat.zero_le _
  | succ begins inner ih =>
    have opens := begins.opens fun _ => read_nestingWithin_coincide _ (.chain .disjunction)
    have fewer := opens.count_lt
    omega

/-- More room than the opening parentheses ahead can take does not matter. -/
theorem expressionWithin_congr {room room' : Nat}
    (enough : 9 * r.cursor.rest.count '(' + 13 ≤ room)
    (enough' : 9 * r.cursor.rest.count '(' + 13 ≤ room') :
    expressionWithin room context r = expressionWithin room' context r := by
  induction room using Nat.strongRecOn generalizing room' r with
  | ind room ih =>
    rw [expressionWithin_eq (Nat.le_of_add_left_le enough),
      expressionWithin_eq (Nat.le_of_add_left_le enough')]
    have callable : (nestingWithin room).callable = (nestingWithin room').callable := rfl
    refine read_nestingWithin_coincide room (.chain .disjunction) callable fun s opens => ?_
    have fewer := opens.count_lt
    exact ⟨ih _ (by omega) (by omega) (by omega), ih _ (by omega) (by omega) (by omega)⟩

end Nested

end Eval

end NumberedBasic
