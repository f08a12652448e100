import NumberedBasic.Proofs.Grammar.Token

/-! # Trees of expressions

A tree follows the grammar of expressions, and its chains of operators grow to the left.
Its value is made of the values of its parts from left to right, with no text at hand.
-/

namespace NumberedBasic

/-- The levels whose operators form chains, from the loosest. -/
inductive Rank where
  | disjunction
  | conjunction
  | arithmetic
  | term
  deriving DecidableEq

def Operator.rank : Operator → Rank
  | or => .disjunction
  | and => .conjunction
  | plus | minus => .arithmetic
  | times | per => .term

/-- The parts of an expression that have a number as their value. -/
inductive Phrase where
  | chain (r : Rank)
  | negation
  | comparison
  | factor

namespace Phrase

abbrev expression : Phrase := chain .disjunction

abbrev arithmetic : Phrase := chain .arithmetic

end Phrase

def Rank.operand : Rank → Phrase
  | disjunction => .chain .conjunction
  | conjunction => .negation
  | arithmetic => .chain .term
  | term => .factor

inductive Nonterminal where
  | phrase (p : Phrase)
  | arguments
  | items

inductive Sign where
  | absent
  | plus
  | minus

namespace Sign

def tokens : Sign → List Token
  | absent => []
  | plus => [.operator .plus]
  | minus => [.operator .minus]

def negative : Sign → Bool
  | minus => true
  | _ => false

def apply (s : Sign) (a : Number) : Number :=
  if s.negative then a.neg else a

end Sign

/-- The trees of the grammar. -/
inductive Tree : Nonterminal → Type where
  | operand {r : Rank} (t : Tree (.phrase r.operand)) : Tree (.phrase (.chain r))
  | binary {r : Rank} (left : Tree (.phrase (.chain r))) (o : Operator) (rank : o.rank = r)
      (right : Tree (.phrase r.operand)) : Tree (.phrase (.chain r))
  | plain (t : Tree (.phrase .comparison)) : Tree (.phrase .negation)
  | opposite (t : Tree (.phrase .comparison)) : Tree (.phrase .negation)
  | single (t : Tree (.phrase .arithmetic)) : Tree (.phrase .comparison)
  | related (left : Tree (.phrase .arithmetic)) (r : Relation)
      (right : Tree (.phrase .arithmetic)) : Tree (.phrase .comparison)
  | number (s : Sign) (l : Literal) : Tree (.phrase .factor)
  | name (s : Sign) (v : VariableName) : Tree (.phrase .factor)
  | call (s : Sign) (b : Builtin) (arguments : Tree .arguments) : Tree (.phrase .factor)
  | group (s : Sign) (t : Tree (.phrase .expression)) : Tree (.phrase .factor)
  | bare : Tree .arguments
  | empty : Tree .arguments
  | listed (items : Tree .items) : Tree .arguments
  | last (t : Tree (.phrase .expression)) : Tree .items
  | next (t : Tree (.phrase .expression)) (others : Tree .items) : Tree .items

namespace Tree

def tokens : {n : Nonterminal} → Tree n → List Token
  | _, operand t => t.tokens
  | _, binary left o _ right => left.tokens ++ .operator o :: right.tokens
  | _, plain t => t.tokens
  | _, opposite t => .not :: t.tokens
  | _, single t => t.tokens
  | _, related left r right => left.tokens ++ .relation r :: right.tokens
  | _, number s l => s.tokens ++ [.number l]
  | _, name s v => s.tokens ++ [.name v]
  | _, call s b arguments => s.tokens ++ .function b :: arguments.tokens
  | _, group s t => s.tokens ++ .opening :: (t.tokens ++ [.closing])
  | _, bare => []
  | _, empty => [.opening, .closing]
  | _, listed items => .opening :: (items.tokens ++ [.closing])
  | _, last t => t.tokens
  | _, next t others => t.tokens ++ .comma :: others.tokens

/-- How deep parentheses and calls with arguments nest. -/
def nesting : {n : Nonterminal} → Tree n → Nat
  | _, operand t => t.nesting
  | _, binary left _ _ right => max left.nesting right.nesting
  | _, plain t => t.nesting
  | _, opposite t => t.nesting
  | _, single t => t.nesting
  | _, related left _ right => max left.nesting right.nesting
  | _, number _ _ => 0
  | _, name _ _ => 0
  | _, call _ _ arguments => arguments.nesting
  | _, group _ t => t.nesting + 1
  | _, bare => 0
  | _, empty => 0
  | _, listed items => items.nesting
  | _, last t => t.nesting + 1
  | _, next t others => max (t.nesting + 1) others.nesting

end Tree

/-- A computation with the variables, the clock and the random numbers. -/
abbrev Valuation := ReaderT Context (EStateM Cause Generator)

namespace Valuation

def lookup (key : Text) : Valuation Number := fun context g =>
  match context.variables.get? key with
  | some value => .ok value g
  | none => .error (.unknownVariable key) g

def call (b : Builtin) (arguments : List Number) : Valuation Number := fun context g =>
  match b.call context.clock arguments g with
  | (.ok value, g) => .ok value g
  | (.error cause, g) => .error cause g

end Valuation

def Operator.value : Operator → Number → Number → Valuation Number
  | or, a, b => pure (if a.isZero ∧ b.isZero then 0 else (1 : Number).neg)
  | and, a, b => pure (if a.isZero ∨ b.isZero then 0 else (1 : Number).neg)
  | plus, a, b => pure (a.add b)
  | minus, a, b => pure (a.sub b)
  | times, a, b => pure (a.mul b)
  | per, a, b => if b.isZero then throw .divisionByZero else pure (a.div b)

/-- The values of arguments are listed. -/
abbrev Nonterminal.Value : Nonterminal → Type
  | phrase _ => Number
  | arguments | items => List Number

/-- The value of a tree. Both operands always have their turn, and a call has no sign. -/
def Tree.value : {n : Nonterminal} → Tree n → Valuation n.Value
  | _, operand t => t.value
  | _, binary left o _ right => do
    let a ← left.value
    let b ← right.value
    o.value a b
  | _, plain t => t.value
  | _, opposite t => do
    let a ← t.value
    return if a.isZero then (1 : Number).neg else 0
  | _, single t => t.value
  | _, related left r right => do
    let a ← left.value
    let b ← right.value
    return if r.holds a b then (1 : Number).neg else 0
  | _, number s l => return s.apply (Number.ofLiteral l.text)
  | _, name s v => return s.apply (← Valuation.lookup (Text.lower v.spelling))
  | _, call _ b arguments => do Valuation.call b (← arguments.value)
  | _, group s t => return s.apply (← t.value)
  | _, bare => return []
  | _, empty => return []
  | _, listed items => items.value
  | _, last t => return [← t.value]
  | _, next t others => do
    let first ← t.value
    return first :: (← others.value)

end NumberedBasic
