import NumberedBasic.Frame

/-! # Causes of failure

Everything that can go wrong in a statement is a cause, which has a kind and a
message. A run adds the line and the column it had reached.
-/

namespace NumberedBasic

inductive CauseKind where
  | syntactic
  | naming
  | control
  | input
  | mathematical
  | conversion
  deriving DecidableEq, Repr

/-- Why a statement, an expression or a command failed. -/
inductive Cause where
  | missingParenthesis (rest : Text)
  | expressionExpected (rest : Text)
  | expected (literal rest : Text)
  | variableExpected (rest : Text)
  | statementExpected (rest : Text)
  | conditionExpected (rest : Text)
  | commaExpected (rest : Text)
  | stringExpected
  | lineNumberExpected
  | lineNumberTooLarge
  | unclosedString
  | thenMissing
  | tooComplex
  | unknownVariable (name : Text)
  | unknownStatement (word : Text)
  | unknownFunction (name : Text)
  | argumentCount (function : Text)
  | notRunning
  | lineMissing (number : Int)
  | targetMissing (value : Number)
  | zeroStep
  | unmatched (complaint : String) (found : Option FrameKind)
  | invalidNumber (field : Text)
  | divisionByZero
  | divisionByZeroIn (function : Text)
  | undefinedIn (function : Text)
  | invalidSeed (value : Number)
  deriving DecidableEq, Repr

namespace Cause

def kind : Cause → CauseKind
  | unknownVariable _ | unknownStatement _ | unknownFunction _ | argumentCount _ => .naming
  | lineMissing number => if isWritable number then .control else .conversion
  | notRunning | targetMissing _ | zeroStep | unmatched _ _ => .control
  | invalidNumber _ => .input
  | divisionByZero | divisionByZeroIn _ | undefinedIn _ | invalidSeed _ => .mathematical
  | _ => .syntactic

def unwritable : String :=
  "Exceeds the limit (4300 digits) for integer string conversion; " ++
    "use sys.set_int_max_str_digits() to increase the limit"

def message : Cause → String
  | missingParenthesis rest => "Missing ')' near " ++ String.ofList rest
  | expressionExpected rest => "Expression expected near " ++ String.ofList rest
  | expected literal rest =>
    "'" ++ String.ofList literal ++ "' expected, found: " ++ String.ofList rest
  | variableExpected rest => "Variable expected near " ++ String.ofList rest
  | statementExpected rest => "Statement expected, found: " ++ String.ofList rest
  | conditionExpected rest => "Condition expected near " ++ String.ofList rest
  | commaExpected rest => "Comma expected near " ++ String.ofList rest
  | stringExpected => "String expected"
  | lineNumberExpected => "Line # expected"
  | lineNumberTooLarge => "Line # too large"
  | unclosedString => "Unclosed string"
  | thenMissing => "IF without THEN"
  | tooComplex => "Expression too complex"
  | unknownVariable name => "Variable not found: " ++ String.ofList name
  | unknownStatement word => "Unknown statement: " ++ String.ofList word
  | unknownFunction name => "No such function: " ++ String.ofList name
  | argumentCount function => "Bad argument count in call to " ++ String.ofList function
  | notRunning => "Program not running"
  | lineMissing number =>
    if isWritable number then "Line not found: " ++ String.ofList (integerText number)
    else unwritable
  | targetMissing value => "Line not found: " ++ String.ofList value.text
  | zeroStep => "Infinite loop"
  | unmatched complaint none => complaint
  | unmatched complaint (some kind) => complaint ++ " (found " ++ kind.keyword ++ ")"
  | invalidNumber field => "Invalid number: " ++ String.ofList field
  | divisionByZero => "Division by zero"
  | divisionByZeroIn function => "Division by zero in call to " ++ String.ofList function
  | undefinedIn function => "Math error in call to " ++ String.ofList function
  | invalidSeed value => "Invalid seed: " ++ String.ofList value.text

end Cause

/-- A cause with the line and column where a run met it. -/
structure Failure where
  cause : Cause
  line : Int
  column : Nat
  deriving DecidableEq, Repr

namespace Failure

/-- The text of a failure, unless one of its numbers cannot be written. -/
def message? (f : Failure) : Option String :=
  if f.cause.kind = .conversion || !isWritable f.line then none
  else some s!"{f.cause.message} in line {String.ofList (integerText f.line)}, column {f.column}"

end Failure

end NumberedBasic
