import NumberedBasic.Decimal.Shortest

/-! # Written numbers

A layout says which decimal exponents are written in positions and how the
special values are spelled. The digits themselves are the shortest ones.
-/

namespace NumberedBasic

/-- The conventions of a written number. -/
structure Layout where
  /-- the least decimal exponent written in positions -/
  positionalFrom : Int
  /-- the least decimal exponent above them -/
  positionalBelow : Int
  /-- what follows a whole number in positions -/
  wholeSuffix : List Char
  undefined : List Char
  positiveInfinity : List Char
  negativeInfinity : List Char

namespace Layout

/-- Numbers as programs print and read them. -/
def plain : Layout where
  positionalFrom := -4
  positionalBelow := 6
  wholeSuffix := []
  undefined := ['N', 'a', 'N']
  positiveInfinity := ['+', 'I', 'n', 'f']
  negativeInfinity := ['-', 'I', 'n', 'f']

/-- Numbers in the description of a pending loop. -/
def descriptive : Layout where
  positionalFrom := -4
  positionalBelow := 16
  wholeSuffix := ['.', '0']
  undefined := ['n', 'a', 'n']
  positiveInfinity := ['i', 'n', 'f']
  negativeInfinity := ['-', 'i', 'n', 'f']

def exponentPart (exponent : Int) : List Char :=
  let digits := Nat.toDigits 10 exponent.natAbs
  (if exponent < 0 then '-' else '+') :: (if digits.length < 2 then '0' :: digits else digits)

/-- One digit, a point if more follow, and the exponent. -/
def scientific (digits : List Char) (exponent : Int) : List Char :=
  match digits with
  | first :: second :: rest => first :: '.' :: second :: rest ++ 'e' :: exponentPart exponent
  | _ => digits ++ 'e' :: exponentPart exponent

/-- The digits with `point` of them before the decimal point. -/
def positional (layout : Layout) (digits : List Char) (point : Int) : List Char :=
  if point ≤ 0 then
    '0' :: '.' :: (List.replicate (-point).toNat '0' ++ digits)
  else if digits.length ≤ point then
    digits ++ List.replicate (point - digits.length).toNat '0' ++ layout.wholeSuffix
  else digits.take point.toNat ++ '.' :: digits.drop point.toNat

def decimal (layout : Layout) (d : Decimal) : List Char :=
  let reduced := d.reduce
  let digits := Nat.toDigits 10 reduced.coefficient
  let point := digits.length + reduced.exponent
  if layout.positionalFrom ≤ point - 1 ∧ point - 1 < layout.positionalBelow then
    layout.positional digits point
  else scientific digits (point - 1)

def magnitude (layout : Layout) (x : Magnitude) : List Char :=
  if x.rank = 0 then '0' :: layout.wholeSuffix else layout.decimal x.shortest

def number (layout : Layout) : Number → List Char
  | .nan => layout.undefined
  | .infinite negative => if negative then layout.negativeInfinity else layout.positiveInfinity
  | .finite negative x => (if negative then ['-'] else []) ++ layout.magnitude x

end Layout

namespace Number

/-- The text of a number as programs print it. -/
def text (a : Number) : List Char :=
  Layout.plain.number a

end Number

end NumberedBasic
