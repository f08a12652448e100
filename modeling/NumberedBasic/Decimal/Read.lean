import NumberedBasic.Decimal.Basic
import NumberedBasic.Number.Round
import NumberedBasic.Text.Basic

/-! # Reading numbers

A decimal becomes the nearest number. Literals in programs are digits with an
optional point; input fields also take a sign, an exponent, underscores between
digits and the names of infinity and the undefined number.
-/

namespace NumberedBasic

namespace Number

/-- The number nearest to a decimal. Decimals far outside the range of numbers are
settled by their exponent alone. -/
def ofDecimal (negative : Bool) (d : Decimal) : Number :=
  if d.coefficient = 0 then finite negative Magnitude.zero
  else if 400 < d.exponent then infinite negative
  else if d.exponent + d.coefficient.log2 / 3 + 1 < -400 then finite negative Magnitude.zero
  else
    round negative (d.coefficient * 10 ^ d.exponent.toNat * unitsOfOne) (10 ^ (-d.exponent).toNat)

def ofDigits (negative : Bool) (whole fraction : Text) (exponent : Int) : Number :=
  ofDecimal negative ⟨Text.digitsValue (whole ++ fraction), exponent - fraction.length⟩

/-- The number that a literal denotes: digits, or digits, a point and digits. -/
def ofLiteral (literal : Text) : Number :=
  ofDigits false (literal.takeWhile Text.isDigit)
    ((literal.dropWhile Text.isDigit).drop 1) 0

end Number

namespace Field

/-- Drops underscores between digits; an underscore elsewhere spoils the field. -/
def dropUnderscores? : Bool → Text → Option Text
  | _, [] => some []
  | afterDigit, c :: rest =>
    if c = '_' then
      if afterDigit && (rest.head?.any Text.isDigit) then dropUnderscores? false rest else none
    else (dropUnderscores? (Text.isDigit c) rest).map (c :: ·)

def takeSign : Text → Bool × Text
  | '-' :: rest => (true, rest)
  | '+' :: rest => (false, rest)
  | text => (false, text)

def exponent? : Text → Option Int
  | [] => some 0
  | c :: rest =>
    if c = 'e' ∨ c = 'E' then
      let (negative, digits) := takeSign rest
      if digits.isEmpty || !digits.all Text.isDigit then none
      else
        let value := (Text.digitsValue digits : Int)
        some (if negative then -value else value)
    else none

def unsigned? (negative : Bool) (text : Text) : Option Number :=
  let small := text.map Char.toLower
  if small = Text.ofString "inf" ∨ small = Text.ofString "infinity" then
    some (.infinite negative)
  else if small = Text.ofString "nan" then some .nan
  else
    let whole := text.takeWhile Text.isDigit
    let afterWhole := text.dropWhile Text.isDigit
    let (fraction, after) :=
      match afterWhole with
      | '.' :: rest => (rest.takeWhile Text.isDigit, rest.dropWhile Text.isDigit)
      | _ => ([], afterWhole)
    if whole.isEmpty && fraction.isEmpty then none
    else (exponent? after).map (Number.ofDigits negative whole fraction)

end Field

def Number.read? (field : Text) : Option Number := do
  let (negative, rest) := Field.takeSign (← Field.dropUnderscores? false field)
  Field.unsigned? negative rest

end NumberedBasic
