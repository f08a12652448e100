import NumberedBasic.Decimal.Read
import NumberedBasic.Eval

/-! # Expressions

An expression is evaluated while it is read. From the loosest: `or`, `and`, one
`not`, one relation, sums, products, and factors with one sign. Both operands of
every operator are evaluated, and a truth value is a number.
-/

namespace NumberedBasic

/-- The binary operators that group to the left. -/
inductive Operator where
  | or
  | and
  | plus
  | minus
  | times
  | per
  deriving DecidableEq, Repr

def Number.ofTruth (truth : Bool) : Number :=
  if truth then (1 : Number).neg else 0

def Operator.apply : Operator → Number → Number → Except Cause Number
  | or, a, b => .ok (Number.ofTruth (!a.isZero || !b.isZero))
  | and, a, b => .ok (Number.ofTruth (!a.isZero && !b.isZero))
  | plus, a, b => .ok (a.add b)
  | minus, a, b => .ok (a.sub b)
  | times, a, b => .ok (a.mul b)
  | per, a, b => if b.isZero then .error .divisionByZero else .ok (a.div b)

namespace Cursor

def logical (operator : Operator) (expected : Text) (c : Cursor) : Option Operator × Cursor :=
  match c.keyword expected with
  | (true, c) => (some operator, c)
  | (false, c) => (none, c)

def eitherSign (first second : Char × Operator) (c : Cursor) : Option Operator × Cursor :=
  match c.literal [first.1] with
  | (true, c) => (some first.2, c)
  | (false, c) =>
    match c.literal [second.1] with
    | (true, c) => (some second.2, c)
    | (false, c) => (none, c)

def disjunctive : Cursor → Option Operator × Cursor :=
  logical .or ['o', 'r']

def conjunctive : Cursor → Option Operator × Cursor :=
  logical .and ['a', 'n', 'd']

def additive : Cursor → Option Operator × Cursor :=
  eitherSign ('+', .plus) ('-', .minus)

def multiplicative : Cursor → Option Operator × Cursor :=
  eitherSign ('*', .times) ('/', .per)

end Cursor

namespace Eval

section Chains

variable (operator : Cursor → Option Operator × Cursor) (operand : Eval Number)

/-- Combines a left operand with one more operator and operand, if there is one. -/
def extend? (left : Number) : Eval (Option Number) := do
  match ← scan operator with
  | none => return none
  | some o =>
    let right ← operand
    return some (← ofExcept (o.apply left right))

/-- Combines a left operand with all operators and operands that follow, grouped to
the left, at most as many as given. -/
def chainFrom : Nat → Number → Eval Number
  | 0, left => pure left
  | count + 1, left => do
    match ← extend? operator operand left with
    | none => return left
    | some value => chainFrom count value

def chain : Eval Number := do
  let first ← operand
  match ← extend? operator operand first with
  | none => return first
  | some value => chainFrom operator operand (← remaining) value

end Chains

/-- How the insides of parentheses and of argument lists are evaluated, and whether there
is room to call a function at all. -/
structure Nesting where
  group : Eval Number
  argument : Eval Number
  callable : Bool

section Levels

variable (nesting : Nesting)

def closeParenthesis : Eval Unit := do
  require (← literal [')']) .missingParenthesis

/-- The arguments of a call, which may lack parentheses if there are none. -/
def arguments : Eval (List Number) := do
  unless ← literal ['('] do return []
  if ← literal [')'] then return []
  let values ← separatedBy [','] nesting.argument
  closeParenthesis
  return values

/-- A name's value: a call, whose sign is dropped, or a variable. -/
def named (negative : Bool) (name : Text) : Eval Number := do
  match Builtin.ofName? name with
  | some b =>
    if nesting.callable then call b (← arguments nesting)
    else throw .tooComplex
  | none =>
    match ← valueOf? name with
    | some value => return if negative then value.neg else value
    | none => throw (.unknownVariable name)

/-- A minus sign; without one a plus sign is skipped. -/
def sign : Eval Bool := do
  if ← literal ['-'] then return true
  else
    discard (literal ['+'])
    return false

def factor : Eval Number := do
  let negative ← sign
  if let some token ← scan Cursor.number then
    let value := Number.ofLiteral token
    return if negative then value.neg else value
  if let some name ← scan Cursor.identifier then
    named nesting negative name
  else if ← literal ['('] then
    let value ← nesting.group
    closeParenthesis
    return if negative then value.neg else value
  else failNear .expressionExpected

def term : Eval Number :=
  chain Cursor.multiplicative (factor nesting)

def arithmetic : Eval Number :=
  chain Cursor.additive (term nesting)

def comparison : Eval Number := do
  let left ← arithmetic nesting
  match ← scan Cursor.relation with
  | none => return left
  | some relation =>
    let right ← arithmetic nesting
    return Number.ofTruth (relation.holds left right)

/-- A comparison; after `not` its value becomes the opposite truth. -/
def negation : Eval Number := do
  if ← keyword ['n', 'o', 't'] then
    return Number.ofTruth (← comparison nesting).isZero
  else comparison nesting

def conjunction : Eval Number :=
  chain Cursor.conjunctive (negation nesting)

def disjunction : Eval Number :=
  chain Cursor.disjunctive (conjunction nesting)

end Levels

/-- Fails for lack of room behind a first `not`, if there is one, and a first operand. -/
def breakOff (operand : Eval Unit) : Eval Number := do
  discard (keyword ['n', 'o', 't'])
  operand
  throw .tooComplex

/-- An expression with room for a number of calls inside each other. One without
parentheses takes thirteen, of which eight lead to a factor; an argument list takes one
more. With less room the evaluation fails where the first call does not fit. -/
def expressionWithin : Nat → Eval Number
  | room + 13 => disjunction ⟨expressionWithin (room + 5), expressionWithin (room + 4), true⟩
  | 12 => breakOff (discard (factor ⟨throw .tooComplex, throw .tooComplex, true⟩))
  | 11 => breakOff (discard (factor ⟨throw .tooComplex, throw .tooComplex, false⟩))
  | _ + 7 => breakOff (pure ())
  | _ => throw .tooComplex

/-- What stands in parentheses where an expression has the given room. -/
def nestingWithin (room : Nat) : Nesting :=
  ⟨expressionWithin (room - 8), expressionWithin (room - 9), true⟩

/-- An expression that is a number of calls away from the statement. -/
def expressionBelow (calls : Nat) : Eval Number :=
  byRoom fun room => expressionWithin (room - calls)

def expression : Eval Number :=
  expressionBelow 0

/-- An expression without relations and logical operators outside parentheses, which
takes five calls less, a number of calls away from the statement. -/
def sumBelow (calls : Nat) : Eval Number :=
  byRoom fun room => arithmetic (nestingWithin (room + 5 - calls))

def sum : Eval Number :=
  sumBelow 0

end Eval

end NumberedBasic
