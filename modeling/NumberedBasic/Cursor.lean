import NumberedBasic.Cause

/-! # Reading along a line

A cursor is a place in a line. Each matcher looks for one kind of token there and
gives the token, if it is there, with the cursor behind it. Most matchers skip
blanks first and leave the cursor behind them even when they find nothing.
-/

namespace NumberedBasic

/-- How many characters of a line lie behind, and those ahead. -/
structure Cursor where
  column : Nat
  rest : Text
  deriving DecidableEq, Repr, Inhabited

namespace Cursor

def start (line : Text) : Cursor := ⟨0, line⟩

def advance (c : Cursor) (count : Nat) : Cursor :=
  ⟨c.column + count, c.rest.drop count⟩

def skipWhile (c : Cursor) (p : Char → Bool) : Cursor :=
  ⟨c.column + (c.rest.takeWhile p).length, c.rest.dropWhile p⟩

def skipBlanks (c : Cursor) : Cursor :=
  c.skipWhile Text.isBlank

def skipDigits (c : Cursor) : Cursor :=
  c.skipWhile Text.isDigit

def finish (c : Cursor) : Cursor :=
  ⟨c.column + c.rest.length, []⟩

def atEnd (c : Cursor) : Bool × Cursor :=
  (c.skipBlanks.rest.isEmpty, c.skipBlanks)

/-- A run of letters in lower case, with no blanks skipped. -/
def word (c : Cursor) : Option Text × Cursor :=
  match c.rest.takeWhile Text.isLetter with
  | [] => (none, c)
  | run => (some (Text.lower run), c.skipWhile Text.isLetter)

/-- A letter and the letters, digits and numerals after it, in lower case. -/
def identifier (c : Cursor) : Option Text × Cursor :=
  let c := c.skipBlanks
  if c.rest.head?.any Text.isLetter then
    (some (Text.lower (c.rest.takeWhile Text.isNameChar)), c.skipWhile Text.isNameChar)
  else (none, c)

/-- Digits, then perhaps a point and perhaps more digits. -/
def number (c : Cursor) : Option Text × Cursor :=
  let c := c.skipBlanks
  match c.rest.takeWhile Text.isDigit with
  | [] => (none, c)
  | whole =>
    match c.rest.dropWhile Text.isDigit with
    | '.' :: after =>
      let token := whole ++ '.' :: after.takeWhile Text.isDigit
      (some token, c.advance token.length)
    | _ => (some whole, c.skipDigits)

/-- More digits than this make no line number. -/
def lineNumberDigits : Nat := integerDigits

/-- A run of digits as a line number. -/
def lineNumber (c : Cursor) : Except Cause (Option Nat) × Cursor :=
  let c := c.skipBlanks
  match c.rest.takeWhile Text.isDigit with
  | [] => (.ok none, c)
  | digits =>
    if lineNumberDigits < digits.length then (.error .lineNumberTooLarge, c.skipDigits)
    else (.ok (some (Text.digitsValue digits)), c.skipDigits)

def quote : Char := '"'

/-- A string between double quotes, without them. -/
def string (c : Cursor) : Except Cause (Option Text) × Cursor :=
  let c := c.skipBlanks
  match c.rest with
  | [] => (.ok none, c)
  | first :: rest =>
    if first = quote then
      let content := rest.takeWhile (· != quote)
      if content.length < rest.length then (.ok (some content), c.advance (content.length + 2))
      else (.error .unclosedString, c.finish)
    else (.ok none, c)

def literal (expected : Text) (c : Cursor) : Bool × Cursor :=
  let c := c.skipBlanks
  if expected.isPrefixOf c.rest then (true, c.advance expected.length) else (false, c)

def anyOf : List Text → Cursor → Option Text × Cursor
  | [], c => (none, c)
  | expected :: others, c =>
    match c.literal expected with
    | (true, c) => (some expected, c)
    | (false, c) => anyOf others c

/-- A run of letters equal to a keyword up to case. Anything else moves nothing. -/
def keyword (expected : Text) (c : Cursor) : Bool × Cursor :=
  match c.skipBlanks.word with
  | (some run, after) => if run = Text.lower expected then (true, after) else (false, c)
  | (none, _) => (false, c)

def demand (expected : Text) (c : Cursor) : Except Cause Unit × Cursor :=
  match c.literal expected with
  | (true, c) => (.ok (), c)
  | (false, c) => (.error (.expected expected c.rest), c)

def demandIdentifier (c : Cursor) : Except Cause Text × Cursor :=
  match c.identifier with
  | (some name, c) => (.ok name, c)
  | (none, c) => (.error (.variableExpected c.rest), c)

end Cursor

/-- The relations between numbers, each before its own prefixes. -/
inductive Relation where
  | atMost
  | different
  | less
  | equal
  | atLeast
  | greater
  deriving DecidableEq, Repr

namespace Relation

def all : List Relation := [atMost, different, less, equal, atLeast, greater]

def sign : Relation → Text
  | atMost => ['<', '=']
  | different => ['<', '>']
  | less => ['<']
  | equal => ['=']
  | atLeast => ['>', '=']
  | greater => ['>']

def holds : Relation → Number → Number → Bool
  | atMost, a, b => a.atMost b
  | different, a, b => !a.equal b
  | less, a, b => a.less b
  | equal, a, b => a.equal b
  | atLeast, a, b => b.atMost a
  | greater, a, b => b.less a

end Relation

/-- The first relation, in the order of `Relation.all`, whose sign is ahead. -/
def Cursor.relation (c : Cursor) : Option Relation × Cursor :=
  let c := c.skipBlanks
  match Relation.all.find? (·.sign.isPrefixOf c.rest) with
  | some r => (some r, c.advance r.sign.length)
  | none => (none, c)

end NumberedBasic
